import HrirAtlas.Text.Blank
import HrirAtlas.Text.Digit

/-
Numbers read from text. Blank characters around the number are cut off, digits of every script
count, and single underscores may stand between two digits. An integer is a row of digits with an
optional sign; a floating-point number has also a point, an exponent, or is one of the words for
the special values.
-/

namespace HrirAtlas.Decimal

/-! ## The shape of a number -/

/-- The digit of ASCII with the same value, for digits of other scripts. -/
def westernDigit (c : Char) : Char :=
  match Text.digitValue? c with
  | some value => Char.ofNat ('0'.toNat + value)
  | none => c

/-- The text without its underscores, if each stands between two digits. -/
def dropUnderscores (digitBefore : Bool) : List Char → Option (List Char)
  | [] => some []
  | '_' :: c :: rest =>
    if digitBefore && c.isDigit then (dropUnderscores true rest).map (c :: ·) else none
  | c :: rest => if c = '_' then none else (dropUnderscores c.isDigit rest).map (c :: ·)

/-- The number without blanks around it, in digits of ASCII and without underscores. -/
def normalized (text : String) : Option (List Char) :=
  dropUnderscores false ((Text.trim text.toList).map westernDigit)

/-- Splits off a sign; the flag tells a minus. -/
def splitSign : List Char → Bool × List Char
  | '-' :: rest => (true, rest)
  | '+' :: rest => (false, rest)
  | rest => (false, rest)

/-- The value of a row of digits. -/
def valueOf (digits : List Char) : Nat :=
  digits.foldl (fun total c => 10 * total + (c.toNat - '0'.toNat)) 0

/-- The value of a row of digits that fills the text and is not empty. -/
def wholeRow? (digits : List Char) : Option Nat :=
  if digits.isEmpty || !digits.all Char.isDigit then none else some (valueOf digits)

/-! ## Integers -/

/-- The integer that a text spells. -/
def readInt? (text : String) : Option Int := do
  let chars ← normalized text
  let (negative, digits) := splitSign chars
  let magnitude ← wholeRow? digits
  return if negative then -(magnitude : Int) else magnitude

/-! ## Floating-point numbers -/

/-- The floating-point value nearest to `digits · 10 ^ power`, by the position of the first digit
where that alone decides. -/
def nearestFloat (digits : Nat) (power : Int) : Float :=
  let first := ((Nat.toDigits 10 digits).length : Int) + power
  if digits = 0 ∨ first < -330 then 0.0
  else if 310 < first then 1.0 / 0.0
  else Float.ofScientific digits (power < 0) power.natAbs

/-- The power of ten after the letter `e`; zero at the end of the text. -/
def readExponent? : List Char → Option Int
  | [] => some 0
  | mark :: rest =>
    if mark = 'e' ∨ mark = 'E' then
      let (negative, digits) := splitSign rest
      (wholeRow? digits).map fun power => if negative then -(power : Int) else power
    else none

/-- A magnitude: digits with an optional point among or around them, and an exponent. -/
def readMagnitude? (chars : List Char) : Option Float :=
  let whole := chars.takeWhile Char.isDigit
  let afterWhole := chars.dropWhile Char.isDigit
  let (places, rest) := match afterWhole with
    | '.' :: rest => (rest.takeWhile Char.isDigit, rest.dropWhile Char.isDigit)
    | rest => ([], rest)
  if whole.isEmpty && places.isEmpty then none
  else (readExponent? rest).map fun power =>
    nearestFloat (valueOf (whole ++ places)) (power - places.length)

/-- The magnitude that a word names, whatever its case. -/
def readWord? (chars : List Char) : Option Float :=
  let word := String.ofList (chars.map Char.toLower)
  if word = "inf" ∨ word = "infinity" then some (1.0 / 0.0)
  else if word = "nan" then some (0.0 / 0.0)
  else none

/-- The floating-point number that a text spells. -/
def readFloat? (text : String) : Option Float := do
  let chars ← normalized text
  let (negative, rest) := splitSign chars
  let magnitude ← readWord? rest <|> readMagnitude? rest
  return if negative then -magnitude else magnitude

end HrirAtlas.Decimal
