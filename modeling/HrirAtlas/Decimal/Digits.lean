import HrirAtlas.Power
import HrirAtlas.Scalar

/-
Decimal digits of exact values: the digits of a natural number, a quotient with a fixed count of
decimal places, a quotient with one digit before the point and an exponent, and the layout of a
row of digits with a power of ten. A half goes to the even neighbour throughout.
-/

namespace HrirAtlas.Decimal

/-- The digits of a natural number, most significant first; zero has one. -/
def digitsOf (n : Nat) : List Char := Nat.toDigits 10 n

/-- At least `width` digits, zeros in front. -/
def padded (width n : Nat) : List Char :=
  let digits := digitsOf n
  List.replicate (width - digits.length) '0' ++ digits

/-- A sign in front of a number: a minus, or a plus where one is asked for. -/
def sign (plus negative : Bool) : String :=
  if negative then "-" else if plus then "+" else ""

/-- The quotient with `places` decimals. -/
def fixedDigits (places num den : Nat) : String :=
  let scaled := Nat.divHalfEven (num * powerOfTen places) den
  let whole := String.ofList (digitsOf (scaled / powerOfTen places))
  if places = 0 then whole
  else whole ++ "." ++ String.ofList (padded places (scaled % powerOfTen places))

/-- A value with a fixed count of decimal places; `plus` writes the sign of positive values too. -/
def fixed (plus : Bool) (places : Nat) : Reading → String
  | .nan => sign plus false ++ "nan"
  | .infinite negative => sign plus negative ++ "inf"
  | .finite negative num den => sign plus negative ++ fixedDigits places num den

/-- An exponent has a sign and at least two digits. -/
def exponentMark (power : Int) : String :=
  "e" ++ (if power < 0 then "-" else "+") ++ String.ofList (padded 2 power.natAbs)

/-- The greatest `power` with `10 ^ power ≤ num / den`, for a positive quotient. -/
def magnitude (num den : Nat) : Int :=
  if den ≤ num then ((digitsOf (num / den)).length : Int) - 1
  else Int.neg (digitsOf ((den + num - 1) / num - 1)).length

/-- One digit, a point, `places` more digits and an exponent. -/
def scientificDigits (places num den : Nat) : String :=
  if num = 0 then fixedDigits places 0 1 ++ exponentMark 0
  else
    let power := magnitude num den
    let shift := (places : Int) - power
    let digits := Nat.divHalfEven (num * powerOfTen shift.toNat) (den * powerOfTen (-shift).toNat)
    if digits < powerOfTen (places + 1) then fixedDigits places digits (powerOfTen places) ++ exponentMark power
    else fixedDigits places (digits / 10) (powerOfTen places) ++ exponentMark (power + 1)

/-- A value in scientific form. -/
def scientific (places : Nat) : Reading → String
  | .nan => "nan"
  | .infinite negative => sign false negative ++ "inf"
  | .finite negative num den => sign false negative ++ scientificDigits places num den

/-- The layout of a number whose first digit stands for `10 ^ lead`: positional, with a digit on
either side of the point, from `10 ^ -4` to `10 ^ 15`; with an exponent beyond. -/
def general (digits : List Char) (lead : Int) : String :=
  if -4 ≤ lead ∧ lead < 0 then
    "0." ++ String.ofList (List.replicate (-lead - 1).toNat '0' ++ digits)
  else if 0 ≤ lead ∧ lead < 16 then
    let whole := lead.toNat + 1
    let front := digits.take whole ++ List.replicate (whole - digits.length) '0'
    let back := digits.drop whole
    String.ofList front ++ "." ++ (if back.isEmpty then "0" else String.ofList back)
  else
    let rest := digits.drop 1
    String.ofList (digits.take 1) ++ (if rest.isEmpty then "" else "." ++ String.ofList rest)
      ++ exponentMark lead

end HrirAtlas.Decimal
