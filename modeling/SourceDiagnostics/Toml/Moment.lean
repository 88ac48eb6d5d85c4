/-
# Dates and times of a document

A date and a time are read by the number of their digits. Behind a date, a time
may follow after a space or the letter T, and behind such a time the distance of
its place from the reference meridian. Where the continuation cannot be read,
the value ends before it.

Only a date that the calendar has is accepted. A text that does not begin like a
date or a time is left to the reader of numbers.
-/

import SourceDiagnostics.Toml.Blank

namespace SourceDiagnostics.Toml

/-- A number of exactly `width` digits within bounds. -/
def fixedNumber? (width low high : Nat) (text : Text) : Option (Nat × Text) :=
  let digits := text.take width
  let value := decimal digits
  if digits.length = width ∧ digits.all Char.isDigit ∧ low ≤ value ∧ value ≤ high then
    some (value, text.drop width)
  else none

/-- The text behind a given character. -/
def after? (c : Char) : Text → Option Text
  | [] => none
  | d :: text => if d = c then some text else none

/-- The digits behind a point, as millionths. Digits beyond the sixth do not
count; a point without digits is no fraction. -/
def fraction (text : Text) : Nat × Text :=
  match text with
  | '.' :: rest =>
    let digits := rest.takeWhile Char.isDigit
    if digits.isEmpty then (0, text)
    else (decimal ((digits.take 6).rightpad 6 '0'), rest.dropWhile Char.isDigit)
  | _ => (0, text)

/-- A time of day. Seconds must be given. -/
def time? (text : Text) : Option (Time × Text) := do
  let (hour, rest) ← fixedNumber? 2 0 23 text
  let (minute, rest) ← fixedNumber? 2 0 59 (← after? ':' rest)
  let (second, rest) ← fixedNumber? 2 0 59 (← after? ':' rest)
  let (microsecond, rest) := fraction rest
  return (⟨hour, minute, second, microsecond⟩, rest)

/-- A distance from the reference meridian, in minutes. -/
def zone? : Text → Option (Int × Text)
  | 'Z' :: rest | 'z' :: rest => some (0, rest)
  | sign :: rest => do
    if sign ≠ '+' && sign ≠ '-' then none
    let (hours, rest) ← fixedNumber? 2 0 23 rest
    let (minutes, rest) ← fixedNumber? 2 0 59 (← after? ':' rest)
    let distance : Int := 60 * hours + minutes
    return (if sign = '-' then -distance else distance, rest)
  | [] => none

/-- A date, whether or not the calendar has it. -/
def date? (text : Text) : Option (Date × Text) := do
  let (year, rest) ← fixedNumber? 4 0 9999 text
  let (month, rest) ← fixedNumber? 2 1 12 (← after? '-' rest)
  let (day, rest) ← fixedNumber? 2 1 31 (← after? '-' rest)
  return (⟨year, month, day⟩, rest)

/-- The time that may follow a date, behind a space or the letter T. -/
def timeOfDate? : Text → Option (Time × Text)
  | ' ' :: text | 'T' :: text | 't' :: text => time? text
  | _ => none

/-- A date, a date with a time, or a time. A date that the calendar does not
have is a fault. -/
def moment? (text : Text) : Option (Except Fault (Value × Text)) :=
  match date? text with
  | some (date, rest) =>
    if !date.isValid then some (.error .malformed)
    else
      match timeOfDate? rest with
      | none => some (.ok (.date date, rest))
      | some (time, rest) =>
        match zone? rest with
        | none => some (.ok (.dateTime date time none, rest))
        | some (zone, rest) => some (.ok (.dateTime date time (some zone), rest))
  | none => (time? text).map fun (time, rest) => .ok (.time time, rest)

end SourceDiagnostics.Toml
