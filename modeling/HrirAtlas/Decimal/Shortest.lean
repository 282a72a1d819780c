import HrirAtlas.Decimal.Digits

/-
The shortest decimal that reads back as a binary floating-point value. The value is
`significand · 2 ^ exponent`; the decimals that read back as it are those between the midpoints to
its neighbours, the ends included when the significand is even. For one digit, two digits, and so
on, the two neighbours of the value on that decimal grid are tried in exact arithmetic; the first
grid with a hit wins, and of two hits the nearer.
-/

namespace HrirAtlas

/-- The parts of a binary floating-point value of 64 bits. -/
inductive Binary64 where
  | nan
  | infinite (negative : Bool)
  | finite (negative : Bool) (significand : Nat) (exponent : Int)
deriving Repr, DecidableEq

namespace Binary64

/-- Splits the bits: one of sign, eleven of exponent, fifty-two of fraction. -/
def ofBits (bits : UInt64) : Binary64 :=
  let negative := bits >>> 63 == 1
  let field := ((bits >>> 52) &&& 0x7FF).toNat
  let fraction := (bits &&& 0xFFFFFFFFFFFFF).toNat
  if field = 0x7FF then
    if fraction = 0 then infinite negative else nan
  else if field = 0 then finite negative fraction (-1074)
  else finite negative (fraction + powerOfTwo 52) ((field : Int) - 1075)

def ofFloat (x : Float) : Binary64 := ofBits x.toBits

/-- The exact value. -/
def reading : Binary64 → Reading
  | nan => .nan
  | infinite negative => .infinite negative
  | finite negative significand exponent =>
    if 0 ≤ exponent then .finite negative (significand * powerOfTwo exponent.toNat) 1
    else .finite negative significand (powerOfTwo (-exponent).toNat)

/-! ## The search -/

/-- Whether `digits · 10 ^ power` reads back as `significand · 2 ^ exponent`: four times the
decimal lies between the midpoints to the two neighbours, which are nearer below a power of two. -/
def readsBack (significand : Nat) (exponent : Int) (digits : Nat) (power : Int) : Bool :=
  let below := if significand = powerOfTwo 52 ∧ -1074 < exponent then 4 * significand - 1 else 4 * significand - 2
  let above := 4 * significand + 2
  let left := 4 * digits * powerOfTen power.toNat * powerOfTwo (-exponent).toNat
  let scale := powerOfTwo exponent.toNat * powerOfTen (-power).toNat
  if significand % 2 = 0 then below * scale ≤ left && left ≤ above * scale
  else below * scale < left && left < above * scale

/-- The shortest digits and the power of ten of the last of them, tried with `count` and up to
`fuel` more digits. -/
def search (significand : Nat) (exponent : Int) (num den : Nat) (lead : Int) : Nat → Nat → Nat × Int
  | 0, count =>
    let power := lead - (count : Int) + 1
    (Nat.divHalfEven (num * powerOfTen (-power).toNat) (den * powerOfTen power.toNat), power)
  | fuel + 1, count =>
    let power := lead - (count : Int) + 1
    let scaledNum := num * powerOfTen (-power).toNat
    let scaledDen := den * powerOfTen power.toNat
    let nearest := Nat.divHalfEven scaledNum scaledDen
    let floor := scaledNum / scaledDen
    let other := if nearest = floor then floor + 1 else floor
    if readsBack significand exponent nearest power then (nearest, power)
    else if readsBack significand exponent other power then (other, power)
    else search significand exponent num den lead fuel (count + 1)

/-- Shortest digits `d` and power `p` with `d · 10 ^ p` reading back as a positive value. -/
def shortest (significand : Nat) (exponent : Int) : Nat × Int :=
  let num := significand * powerOfTwo exponent.toNat
  let den := powerOfTwo (-exponent).toNat
  search significand exponent num den (Decimal.magnitude num den) 17 1

/-- Without exponent while the leading digit stands for `10 ^ -4` to `10 ^ 15`, and then with a
point and at least one digit after it; else with an exponent of two digits or more. -/
def text : Binary64 → String
  | nan => "nan"
  | infinite negative => if negative then "-inf" else "inf"
  | finite negative significand exponent =>
    let sign := if negative then "-" else ""
    if significand = 0 then sign ++ "0.0"
    else
      let (digits, power) := shortest significand exponent
      let row := Decimal.digitsOf digits
      let significant := (row.reverse.dropWhile (· == '0')).reverse
      sign ++ Decimal.general significant (power + row.length - 1)

end Binary64

end HrirAtlas
