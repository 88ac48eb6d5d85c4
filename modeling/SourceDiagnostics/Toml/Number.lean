/-
# Numbers of a document

Whole numbers are written in base ten, sixteen, two or eight, and only those in
base ten may have a sign. A point with digits behind it or a power of ten makes
a number binary; infinity and the value that is not a number have names. An
underscore may stand between any two digits.

What a reader leaves behind must be able to follow a value, which is the business
of the document: a zero before other digits is read as a number, and the digits
behind it are refused there.
-/

import SourceDiagnostics.Toml.Blank

namespace SourceDiagnostics.Toml

/-- The digits at the front of a text, where an underscore may stand between two
digits and is left out. -/
def moreDigits (isDigit : Char → Bool) : Text → Text × Text
  | [] => ([], [])
  | '_' :: d :: text =>
    if isDigit d then
      let (digits, rest) := moreDigits isDigit text
      (d :: digits, rest)
    else ([], '_' :: d :: text)
  | c :: text =>
    if isDigit c then
      let (digits, rest) := moreDigits isDigit text
      (c :: digits, rest)
    else ([], c :: text)

/-- At least one digit at the front of a text. -/
def digits? (isDigit : Char → Bool) : Text → Option (Text × Text)
  | [] => none
  | c :: text =>
    if isDigit c then
      let (digits, rest) := moreDigits isDigit text
      some (c :: digits, rest)
    else none

/-- The value of digits in a base of at most sixteen. -/
def valueIn (base : Nat) (digits : Text) : Nat :=
  digits.foldl (fun n c => base * n + ((hexadecimal? [c]).getD 0)) 0

/-- A whole number written in base sixteen, two or eight. -/
def based? : Text → Option (Value × Text)
  | '0' :: 'x' :: text =>
    (digits? (fun c => (hexadecimal? [c]).isSome) text).map fun (digits, rest) =>
      (.integer (valueIn 16 digits), rest)
  | '0' :: 'b' :: text =>
    (digits? (fun c => c = '0' || c = '1') text).map fun (digits, rest) =>
      (.integer (valueIn 2 digits), rest)
  | '0' :: 'o' :: text =>
    (digits? (fun c => '0' ≤ c && c ≤ '7') text).map fun (digits, rest) =>
      (.integer (valueIn 8 digits), rest)
  | _ => none

/-- Whether a number is below zero, and the text behind its sign. -/
def sign : Text → Bool × Text
  | '-' :: text => (true, text)
  | '+' :: text => (false, text)
  | text => (false, text)

/-- The digits before the point. A zero stands alone. -/
def wholeDigits? : Text → Option (Text × Text)
  | '0' :: text => some (['0'], text)
  | text => digits? Char.isDigit text

/-- The digits behind a point, if there are any. -/
def pointDigits? : Text → Option (Text × Text)
  | '.' :: text => digits? Char.isDigit text
  | _ => none

/-- The power of ten behind its letter, if there is one. -/
def power? : Text → Option (Int × Text)
  | c :: text => do
    if c ≠ 'e' && c ≠ 'E' then none
    let (negative, text) := sign text
    let (digits, rest) ← digits? Char.isDigit text
    let value : Int := decimal digits
    return (if negative then -value else value, rest)
  | [] => none

/-- The binary number nearest to digits before and behind a point, times a power
of ten. -/
def floatOf (negative : Bool) (whole fraction : Text) (power : Int) : Binary :=
  .ofDecimal negative (decimal (whole ++ fraction)) (power - fraction.length)

/-- A number written in base ten. A point or a power of ten makes it binary. -/
def plainNumber? (text : Text) : Option (Except Fault (Value × Text)) := do
  let (negative, unsigned) := sign text
  let (whole, rest) ← wholeDigits? unsigned
  match pointDigits? rest, power? ((pointDigits? rest).elim rest Prod.snd) with
  | none, none =>
    if Value.digitLimit < whole.length then return .error (.longInteger whole.length)
    let value : Int := decimal whole
    return .ok (.integer (if negative then -value else value), rest)
  | some (fraction, rest), none =>
    return .ok (.float (floatOf negative whole fraction 0), rest)
  | point, some (power, rest) =>
    return .ok (.float (floatOf negative whole (point.elim [] Prod.fst) power), rest)

/-- Infinity or the value that is not a number, with or without a sign. -/
def specialNumber? (text : Text) : Option (Value × Text) :=
  let (negative, unsigned) := sign text
  if unsigned.startsWith "inf".toList then some (.float (.infinite negative), unsigned.drop 3)
  else if unsigned.startsWith "nan".toList then some (.float .undefined, unsigned.drop 3)
  else none

end SourceDiagnostics.Toml
