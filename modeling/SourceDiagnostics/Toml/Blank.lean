/-
# Blanks, comments and digits

Every reader of a TOML document takes what it needs from the front of a text and
answers with the rest. This module holds what all of them share: the faults of a
document, what may stand between its parts, and the values of digits.

A comment runs up to the end of its line and may hold no control character but
the tab. The newline behind it belongs to what follows.
-/

import SourceDiagnostics.Toml.Value

namespace SourceDiagnostics.Toml

/-- Why a text is not a document: it breaks a rule of the format, or holds a whole number of
more digits than are read. -/
inductive Fault where
  | malformed
  | longInteger (digits : Nat)
deriving DecidableEq, Repr

/-- The wording of a fault. What breaks a rule of the format is told in words of the
reader's own, which are given. -/
def Fault.message (malformed : Text) : Fault → Text
  | .malformed => malformed
  | .longInteger digits =>
    "Exceeds the limit (".toList ++ Text.ofNat Value.digitLimit ++
      " digits) for integer string conversion: value has ".toList ++ Text.ofNat digits ++
      " digits; use sys.set_int_max_str_digits() to increase the limit".toList

/-- Spaces and tabs. -/
def isBlank (c : Char) : Bool := c = ' ' || c = '\t'

/-- Spaces, tabs and newlines. -/
def isGap (c : Char) : Bool := isBlank c || c = '\n'

/-- Control characters other than the tab, which no comment and no text on one
line may hold. -/
def isControl (c : Char) : Bool := (c.toNat < 0x20 && c ≠ '\t') || c.toNat = 0x7f

/-- The text from its first character on that is no blank. -/
def skipBlanks (text : Text) : Text := text.dropWhile isBlank

/-- The text behind a comment, if it begins with one. The newline that ends the
comment stays. -/
def skipComment : Text → Except Fault Text
  | '#' :: text =>
    if (text.takeWhile (· != '\n')).any isControl then .error .malformed
    else .ok (text.dropWhile (· != '\n'))
  | text => .ok text

/-- The text behind blanks, newlines and comments; `inside` tells whether the text
begins inside a comment. -/
def skipGapsFrom (inside : Bool) : Text → Except Fault Text
  | [] => .ok []
  | c :: text =>
    if inside then
      if c = '\n' then skipGapsFrom false text
      else if isControl c then .error .malformed
      else skipGapsFrom true text
    else if isGap c then skipGapsFrom false text
    else if c = '#' then skipGapsFrom true text
    else .ok (c :: text)

/-- The text behind blanks, newlines and comments. -/
def skipGaps (text : Text) : Except Fault Text := skipGapsFrom false text

/-- The value of a text of hexadecimal digits; `none` if another character is
among them. -/
def hexadecimal? (digits : Text) : Option Nat :=
  digits.foldl (fun value c => value.bind fun n =>
    if c.isDigit then some (16 * n + (c.toNat - '0'.toNat))
    else if 'a' ≤ c && c ≤ 'f' then some (16 * n + (c.toNat - 'a'.toNat + 10))
    else if 'A' ≤ c && c ≤ 'F' then some (16 * n + (c.toNat - 'A'.toNat + 10))
    else none) (some 0)

/-- The value of a text of decimal digits. -/
def decimal (digits : Text) : Nat := Nat.ofDigitChars 10 digits 0

end SourceDiagnostics.Toml
