/-
# Dates and times

A date has a year, a month and a day, and only days that the calendar has are
dates. A time of day is exact to a microsecond. The two together may carry the
distance of their place from the reference meridian, in minutes.

Each is shown by the name of its kind and its parts in parentheses. Seconds are
left out when there are none, and so are microseconds.
-/

import SourceDiagnostics.Text

namespace SourceDiagnostics.Toml

/-- A day of the calendar. -/
structure Date where
  year : Nat
  month : Nat
  day : Nat
deriving DecidableEq, Repr

/-- A time of day. -/
structure Time where
  hour : Nat
  minute : Nat
  second : Nat
  microsecond : Nat
deriving DecidableEq, Repr

namespace Date

/-- Whether a year has a leap day. -/
def isLeap (year : Nat) : Bool := year % 4 = 0 && (year % 100 ≠ 0 || year % 400 = 0)

/-- The number of days of a month. -/
def daysIn (year month : Nat) : Nat :=
  if month = 2 then (if isLeap year then 29 else 28)
  else if month = 4 || month = 6 || month = 9 || month = 11 then 30
  else 31

/-- Whether the calendar, which begins with the year one, has the day. -/
def isValid (date : Date) : Bool :=
  0 < date.year && 1 ≤ date.month && date.month ≤ 12 && 1 ≤ date.day &&
    date.day ≤ daysIn date.year date.month

/-- The numbers of a date in order. -/
def parts (date : Date) : List Nat := [date.year, date.month, date.day]

end Date

/-- The numbers of a time in order, without seconds and microseconds that are
zero. -/
def Time.parts (time : Time) : List Nat :=
  [time.hour, time.minute] ++
    if time.microsecond ≠ 0 then [time.second, time.microsecond]
    else if time.second ≠ 0 then [time.second] else []

/-- A kind with its parts in parentheses. -/
def shownParts (kind : Text) (parts : List Text) : Text :=
  kind ++ '(' :: ", ".toList.intercalate parts ++ [')']

/-- A date as it is shown. -/
def Date.shown (date : Date) : Text :=
  shownParts "datetime.date".toList (date.parts.map Text.ofNat)

/-- A time as it is shown. -/
def Time.shown (time : Time) : Text :=
  shownParts "datetime.time".toList (time.parts.map Text.ofNat)

/-- A distance from the reference meridian in minutes as it is shown: as days
and seconds, where west of it the days are one less than none. -/
def shownZone (minutes : Int) : Text :=
  if minutes = 0 then "datetime.timezone.utc".toList
  else
    let distance :=
      if 0 < minutes then "seconds=".toList ++ Text.ofInt (60 * minutes)
      else "days=-1, seconds=".toList ++ Text.ofInt (86400 + 60 * minutes)
    "datetime.timezone(datetime.timedelta(".toList ++ distance ++ "))".toList

/-- A date with a time, and perhaps a zone, as it is shown. -/
def shownDateTime (date : Date) (time : Time) (zone : Option Int) : Text :=
  shownParts "datetime.datetime".toList
    ((date.parts ++ time.parts).map Text.ofNat ++
      match zone with
      | none => []
      | some minutes => ["tzinfo=".toList ++ shownZone minutes])

end SourceDiagnostics.Toml
