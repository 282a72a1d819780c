import HrirAtlas.Calendar
import HrirAtlas.Yaml.Cursor

/-
Days and instants as texts spell them: year, month and day between dashes, and after a letter or
blanks a time with an offset from universal time. Whether there is such a day is not asked here.
-/

namespace HrirAtlas.Yaml

/-- A day, or an instant on it, as it is written; whether month and day have two digits. -/
inductive Moment where
  | day (date : CalendarDate) (isPadded : Bool)
  | instant (t : Instant)
deriving Repr, DecidableEq

/-- A number of so many digits, or fewer where there are not as many, but not less than the least. -/
def number? (least most : Nat) (chars : List Char) : Option (Nat × Nat × List Char) :=
  let digits := (chars.takeWhile Char.isDigit).take most
  if digits.length < least then none
  else some (numberOf 10 digits, digits.length, chars.drop digits.length)

/-- The rest after a character that must come first. -/
def after? (x : Char) : List Char → Option (List Char)
  | [] => none
  | c :: rest => if c == x then some rest else none

/-- The rest after blanks. -/
def dropBlanks (chars : List Char) : List Char := chars.dropWhile fun c => c == ' ' || c == '\t'

/-- The offset from universal time at the end of an instant, in minutes. -/
def offset? (chars : List Char) : Option (Option Int) :=
  match dropBlanks chars with
  | [] => if chars.isEmpty then some none else none
  | 'Z' :: rest => if rest.isEmpty then some (some 0) else none
  | sign :: rest => do
    if sign ≠ '+' ∧ sign ≠ '-' then none
    let (hours, _, rest) ← number? 1 2 rest
    let (minutes, rest) ← match rest with
      | [] => some (0, [])
      | rest => do
        let (minutes, _, rest) ← number? 2 2 (← after? ':' rest)
        some (minutes, rest)
    if !rest.isEmpty then none
    let total : Int := 60 * hours + minutes
    return some (if sign = '-' then -total else total)

/-- The time of day and the offset. -/
def clock? (date : CalendarDate) (chars : List Char) : Option Instant := do
  let (hour, _, rest) ← number? 1 2 chars
  let (minute, _, rest) ← number? 2 2 (← after? ':' rest)
  let (second, _, rest) ← number? 2 2 (← after? ':' rest)
  let (fraction, rest) := match rest with
    | '.' :: rest => (rest.takeWhile Char.isDigit, rest.dropWhile Char.isDigit)
    | rest => ([], rest)
  let digits := fraction.take 6
  let microsecond := numberOf 10 (digits ++ List.replicate (6 - digits.length) '0')
  return { date, hour, minute, second, microsecond, offset := ← offset? rest }

/-- The moment that a text spells: year, month and day, and after a letter or blanks a time. -/
def moment? (chars : List Char) : Option Moment := do
  let (year, _, rest) ← number? 4 4 chars
  let (month, monthDigits, rest) ← number? 1 2 (← after? '-' rest)
  let (day, dayDigits, rest) ← number? 1 2 (← after? '-' rest)
  let date : CalendarDate := ⟨year, month, day⟩
  match rest with
  | [] => return .day date (monthDigits == 2 && dayDigits == 2)
  | mark :: more =>
    if mark == 'T' || mark == 't' then return .instant (← clock? date more)
    else if mark == ' ' || mark == '\t' then return .instant (← clock? date (dropBlanks more))
    else none

/-- Whether a plain scalar is a moment: a day alone is written with two digits for month and day. -/
def isMoment (chars : List Char) : Bool :=
  match moment? chars with
  | some (.day _ isPadded) => isPadded
  | some (.instant _) => true
  | none => false

end HrirAtlas.Yaml
