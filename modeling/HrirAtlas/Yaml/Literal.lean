import HrirAtlas.Text.Blank
import HrirAtlas.Text.LowerCase
import HrirAtlas.Yaml.Fault
import HrirAtlas.Yaml.Tag

/-
The values of scalars, from their texts. A tag may ask for a kind of value that the text of the
node does not spell, which is a fault.
-/

namespace HrirAtlas.Yaml

variable {α : Type} [Scalar α]

/-! ## Numbers -/

/-- The text without underscores. -/
def withoutGaps (text : String) : List Char := text.toList.filter (· ≠ '_')

/-- Splits the sign off a text that must not be empty. -/
def signed (chars : List Char) : Except Fault (Bool × List Char) :=
  if chars.isEmpty then .error .noDigits else .ok (Decimal.splitSign chars)

/-- Whether a character is a digit of a base up to sixteen. -/
def isDigitOf (base : Nat) (c : Char) : Bool := isHexDigit c && decide (hexValue c < base)

/-- The integer that a text spells in digits of a base; blanks and a sign may surround it. -/
def integerIn (base : Nat) (chars : List Char) : Except Fault Int :=
  let (negative, digits) := Decimal.splitSign (Text.trim chars)
  if digits.isEmpty || !digits.all (isDigitOf base) then
    .error (.setting (.noIntegerText base (excerpt (Text.quoted (String.ofList chars)))))
  else .ok (if negative then -(numberOf base digits : Int) else numberOf base digits)

/-- The integer that a text spells in decimal digits. -/
def decimalInteger (chars : List Char) : Except Fault Int :=
  match Decimal.readInt? (String.ofList chars) with
  | some n => .ok n
  | none => .error (.setting (.noIntegerText 10 (excerpt (Text.quoted (String.ofList chars)))))

/-- An integer: binary after `0b`, in base sixteen after `0x`, octal after another zero, in base
sixty with colons, else decimal. -/
def integer (text : String) : Except Fault Int := do
  let (negative, chars) ← signed (withoutGaps text)
  let magnitude ← match chars with
    | [] => .error .noDigits
    | ['0'] => pure 0
    | '0' :: 'b' :: digits => integerIn 2 digits
    | '0' :: 'x' :: digits => integerIn 16 digits
    | '0' :: _ => integerIn 8 chars
    | _ =>
      if chars.contains ':' then do
        let digits ← (parts ':' chars).mapM decimalInteger
        pure (digits.foldl (fun total digit => 60 * total + digit) 0)
      else decimalInteger chars
  return if negative then -magnitude else magnitude

/-- The scalar that a text spells. -/
def scalarOf (chars : List Char) : Except Fault α :=
  match Scalar.ofText? (String.ofList chars) with
  | some x => .ok x
  | none => .error (.setting (.noNumberText (Text.quoted (String.ofList chars))))

/-- The value of digits of base sixty, last first, times a power of sixty. -/
def sixtieths (weight : Int) : List α → α → α
  | [], total => total
  | digit :: more, total => sixtieths (60 * weight) more (total + digit * Scalar.ofInt weight)

/-- A number with a point, or one of the special values. -/
def real (text : String) : Except Fault α := do
  let (negative, chars) ← signed (Text.lower (String.ofList (withoutGaps text))).toList
  if chars = ".nan".toList then return ← scalarOf "nan".toList
  let magnitude ←
    if chars = ".inf".toList then scalarOf "inf".toList
    else if chars.contains ':' then do
      let digits ← (parts ':' chars).mapM scalarOf
      pure (sixtieths 1 digits.reverse 0.0)
    else scalarOf chars
  return if negative then -magnitude else magnitude

/-! ## Other scalars -/

/-- A truth value, in any case. -/
def truthValue (text : String) : Except Fault Bool :=
  let word := Text.lower text
  match flagWords.lookup word with
  | some on => .ok on
  | none => .error (.flag word)

/-- A day or an instant. -/
def moment (text : String) : Except Fault (Setting α) :=
  match moment? text.toList with
  | some (.day date _) => (date.check.map Setting.date).mapError .calendar
  | some (.instant t) => (t.check.map Setting.instant).mapError .calendar
  | none => .error .noInstant

/-- The digits of base sixty-four. -/
def base64Digits : List Char :=
  "ABCDEFGHIJKLMNOPQRSTUVWXYZabcdefghijklmnopqrstuvwxyz0123456789+/".toList

/-- The digits in a text up to its padding. A group has four places; padding ends the text where it
fills the group. Other characters do not count. -/
def base64Values : Nat → Nat → List Char → List Nat × Bool
  | place, _, [] => ([], place == 0)
  | place, padding, c :: rest =>
    if c == '=' then
      if 2 ≤ place ∧ 4 ≤ place + padding + 1 then ([], true)
      else base64Values place (if 2 ≤ place then padding + 1 else padding) rest
    else
      match base64Digits.idxOf? c with
      | none => base64Values place padding rest
      | some value =>
        let (more, isWhole) := base64Values ((place + 1) % 4) 0 rest
        (value :: more, isWhole)

/-- The bytes that digits of base sixty-four stand for, four of them for three bytes. -/
def base64Bytes : List Nat → List UInt8
  | a :: b :: rest =>
    UInt8.ofNat (4 * a + b / 16) ::
      match rest with
      | [] => []
      | c :: rest =>
        UInt8.ofNat (16 * b + c / 4) ::
          match rest with
          | [] => []
          | d :: rest => UInt8.ofNat (64 * c + d) :: base64Bytes rest
  | _ => []

/-- Bytes in digits of base sixty-four. -/
def binary (text : String) : Except Fault (List UInt8) :=
  let chars := text.toList
  let (digits, isWhole) := base64Values 0 0 chars
  if chars.all (fun c => decide (c.toNat < 128)) && isWhole then .ok (base64Bytes digits) else .error .value

end HrirAtlas.Yaml
