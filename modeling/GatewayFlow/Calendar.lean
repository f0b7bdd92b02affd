import GatewayFlow.Number.Style

/-!
# Dates and instants

Days of the calendar from year 1 to 9999, and instants with a time of day and an optional distance
from universal time. Both are written in ISO form; a message shows them as constructor calls.
-/
namespace GatewayFlow

structure Date where
  year : Nat
  month : Nat
  day : Nat
deriving DecidableEq, Repr

/-- A time of day on a date; `offset` is the distance from universal time in minutes. -/
structure Instant where
  date : Date
  hour : Nat
  minute : Nat
  second : Nat
  microsecond : Nat
  offset : Option Int
deriving DecidableEq, Repr

/-- Why numbers form no date or instant. -/
inductive CalendarError
  | year (n : Nat)
  | month
  | day
  | hour
  | minute
  | second
  | offset (minutes : Int)
deriving DecidableEq, Repr

namespace Date

def isLeap (year : Nat) : Bool :=
  year % 4 == 0 && (year % 100 != 0 || year % 400 == 0)

def daysIn (year month : Nat) : Nat :=
  if month = 2 then (if isLeap year then 29 else 28)
  else if month = 4 ∨ month = 6 ∨ month = 9 ∨ month = 11 then 30 else 31

/-- A date, when its numbers name a day. -/
def ofNumbers (year month day : Nat) : Except CalendarError Date :=
  if year = 0 ∨ 9999 < year then .error (.year year)
  else if month = 0 ∨ 12 < month then .error .month
  else if day = 0 ∨ daysIn year month < day then .error .day
  else .ok ⟨year, month, day⟩

def isoText (d : Date) : List Char :=
  padLeft 4 (natText d.year) ++ '-' :: padLeft 2 (natText d.month) ++
    '-' :: padLeft 2 (natText d.day)

end Date

def numbersText (ns : List Nat) : List Char :=
  [',', ' '].intercalate (ns.map natText)

def Date.literal (d : Date) : List Char :=
  "datetime.date(".toList ++ numbersText [d.year, d.month, d.day] ++ [')']

namespace Instant

/-- The distance from universal time as sign, hours and minutes. -/
def offsetText (minutes : Int) : List Char :=
  (if minutes < 0 then '-' else '+') :: padLeft 2 (natText (minutes.natAbs / 60)) ++
    ':' :: padLeft 2 (natText (minutes.natAbs % 60))

def clockText (t : Instant) : List Char :=
  padLeft 2 (natText t.hour) ++ ':' :: padLeft 2 (natText t.minute) ++
    ':' :: padLeft 2 (natText t.second) ++
    (if t.microsecond = 0 then [] else '.' :: padLeft 6 (natText t.microsecond))

/-- Date, `T`, time and distance, with `Z` for universal time. -/
def isoText (t : Instant) : List Char :=
  t.date.isoText ++ 'T' :: t.clockText ++
    match t.offset with
    | none => []
    | some 0 => ['Z']
    | some minutes => offsetText minutes

/-- A length of time in minutes, as a whole number of days and a rest in seconds. -/
def spanLiteral (minutes : Int) : List Char :=
  let days := minutes.fdiv 1440
  let seconds := (minutes.fmod 1440).toNat * 60
  let parts := (if days = 0 then [] else ["days=".toList ++ intText days]) ++
    (if seconds = 0 then [] else ["seconds=".toList ++ natText seconds])
  "datetime.timedelta(".toList ++
    (if parts.isEmpty then ['0'] else [',', ' '].intercalate parts) ++ [')']

def zoneLiteral (minutes : Int) : List Char :=
  if minutes = 0 then "datetime.timezone.utc".toList
  else "datetime.timezone(".toList ++ spanLiteral minutes ++ [')']

/-- Seconds and microseconds are left out from the end while they are zero. -/
def literal (t : Instant) : List Char :=
  let tail := if t.microsecond ≠ 0 then [t.second, t.microsecond]
    else if t.second ≠ 0 then [t.second] else []
  "datetime.datetime(".toList ++
    numbersText ([t.date.year, t.date.month, t.date.day, t.hour, t.minute] ++ tail) ++
    (match t.offset with
      | none => []
      | some minutes => ", tzinfo=".toList ++ zoneLiteral minutes) ++ [')']

/-- An instant, when its numbers name a time of day within a day of universal time. -/
def ofNumbers (date : Date) (hour minute second microsecond : Nat) (offset : Option Int) :
    Except CalendarError Instant :=
  if 1440 ≤ (offset.getD 0).natAbs then .error (.offset (offset.getD 0))
  else if 23 < hour then .error .hour
  else if 59 < minute then .error .minute
  else if 59 < second then .error .second
  else .ok ⟨date, hour, minute, second, microsecond, offset⟩

end Instant

def CalendarError.message : CalendarError → String
  | .year n => s!"year {n} is out of range"
  | .month => "month must be in 1..12"
  | .day => "day is out of range for month"
  | .hour => "hour must be in 0..23"
  | .minute => "minute must be in 0..59"
  | .second => "second must be in 0..59"
  | .offset minutes =>
    "offset must be a timedelta strictly between -timedelta(hours=24) and timedelta(hours=24), not "
      ++ String.ofList (Instant.spanLiteral minutes) ++ "."

end GatewayFlow
