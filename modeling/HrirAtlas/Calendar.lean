import HrirAtlas.Decimal.Digits

/-
Days of the calendar and instants on them, with the checks that make one out of numbers and the
texts that show one.
-/

namespace HrirAtlas

/-! ## Days and instants -/

/-- A day of the calendar. -/
structure CalendarDate where
  year : Nat
  month : Nat
  day : Nat
deriving Repr, DecidableEq

/-- A time of day on a date; the offset from universal time is in minutes, if one is known. -/
structure Instant where
  date : CalendarDate
  hour : Nat
  minute : Nat
  second : Nat
  microsecond : Nat
  offset : Option Int
deriving Repr, DecidableEq

/-! ## What exists -/

/-- Why there is no such day or instant. -/
inductive CalendarFault where
  | year (n : Nat)
  | month
  | day
  | hour
  | minute
  | second
  /-- An offset from universal time of a day or more, in minutes. -/
  | offset (minutes : Int)
deriving Repr, DecidableEq

/-- The days of a month; every fourth year is a leap year, of the centuries every fourth one. -/
def daysInMonth (year month : Nat) : Nat :=
  if month = 2 then
    if year % 4 = 0 ∧ (year % 100 ≠ 0 ∨ year % 400 = 0) then 29 else 28
  else if month ∈ [4, 6, 9, 11] then 30 else 31

/-- The day with the given numbers, if it exists. -/
def CalendarDate.check (d : CalendarDate) : Except CalendarFault CalendarDate :=
  if d.year = 0 ∨ 9999 < d.year then .error (.year d.year)
  else if d.month = 0 ∨ 12 < d.month then .error .month
  else if d.day = 0 ∨ daysInMonth d.year d.month < d.day then .error .day
  else .ok d

/-- The minutes of a day. -/
def minutesOfDay : Int := 1440

/-- The offset, if it is less than a day either way. -/
def checkOffset (minutes : Int) : Except CalendarFault Int :=
  if -minutesOfDay < minutes ∧ minutes < minutesOfDay then .ok minutes else .error (.offset minutes)

/-- The instant with the given numbers, if it exists. -/
def Instant.check (t : Instant) : Except CalendarFault Instant := do
  let _ ← t.offset.mapM checkOffset
  let _ ← t.date.check
  if 23 < t.hour then .error .hour
  else if 59 < t.minute then .error .minute
  else if 59 < t.second then .error .second
  else .ok t

/-! ## Texts -/

private def twoDigits (n : Nat) : String := String.ofList (Decimal.padded 2 n)

def CalendarDate.shown (d : CalendarDate) : String :=
  String.ofList (Decimal.padded 4 d.year) ++ "-" ++ twoDigits d.month ++ "-" ++ twoDigits d.day

def CalendarDate.literal (d : CalendarDate) : String :=
  "datetime.date(" ++ toString d.year ++ ", " ++ toString d.month ++ ", " ++ toString d.day ++ ")"

/-- A span of minutes in days, which may be negative, and seconds; none of either is left out. -/
def spanLiteral (minutes : Int) : String :=
  let days := minutes.fdiv minutesOfDay
  let seconds := (minutes.emod minutesOfDay) * 60
  let parts := (if days = 0 then [] else ["days=" ++ toString days])
    ++ (if seconds = 0 then [] else ["seconds=" ++ toString seconds])
  "datetime.timedelta(" ++ ", ".intercalate parts ++ ")"

def CalendarFault.message : CalendarFault → String
  | year n => "year " ++ toString n ++ " is out of range"
  | month => "month must be in 1..12"
  | day => "day is out of range for month"
  | hour => "hour must be in 0..23"
  | minute => "minute must be in 0..59"
  | second => "second must be in 0..59"
  | offset minutes =>
    "offset must be a timedelta strictly between -timedelta(hours=24) and timedelta(hours=24), not "
      ++ spanLiteral minutes ++ "."

/-- The offset from universal time as hours and minutes with a sign. -/
def Instant.offsetShown (minutes : Int) : String :=
  (if minutes < 0 then "-" else "+") ++ twoDigits (minutes.natAbs / 60) ++ ":" ++ twoDigits (minutes.natAbs % 60)

def Instant.shown (t : Instant) : String :=
  t.date.shown ++ " " ++ twoDigits t.hour ++ ":" ++ twoDigits t.minute ++ ":" ++ twoDigits t.second
    ++ (if t.microsecond = 0 then "" else "." ++ String.ofList (Decimal.padded 6 t.microsecond))
    ++ (match t.offset with | none => "" | some minutes => Instant.offsetShown minutes)

/-- The fields of an instant after the date: trailing zeros after the minute are left out. -/
def Instant.literal (t : Instant) : String :=
  let clock := [t.hour, t.minute] ++ (if t.second = 0 ∧ t.microsecond = 0 then [] else [t.second])
    ++ (if t.microsecond = 0 then [] else [t.microsecond])
  let zone := match t.offset with
    | none => ""
    | some 0 => ", tzinfo=datetime.timezone.utc"
    | some minutes => ", tzinfo=datetime.timezone(" ++ spanLiteral minutes ++ ")"
  "datetime.datetime(" ++ ", ".intercalate
      (([t.date.year, t.date.month, t.date.day] ++ clock).map toString) ++ zone ++ ")"

end HrirAtlas
