/-
# Texts of a document

A text has four spellings: on one line or several, with escapes or without. One
line is quoted by single marks and several by marks in threes. Escapes are known
between double quotation marks only; between single ones every character stands
for itself.

The readers here begin behind the opening marks, except for the one that tells
the spellings apart.
-/

import SourceDiagnostics.Toml.Blank

namespace SourceDiagnostics.Toml

/-- The character whose number is written with `width` hexadecimal digits. -/
def numberedChar (width : Nat) (text : Text) : Except Fault (Text × Text) :=
  let digits := text.take width
  match hexadecimal? digits with
  | some n =>
    if digits.length = width ∧ n.isValidChar then .ok ([Char.ofNat n], text.drop width)
    else .error .malformed
  | none => .error .malformed

/-- The character that a letter after a backslash stands for. -/
def letterEscape? : Char → Option Char
  | 'b' => some '\x08'
  | 't' => some '\t'
  | 'n' => some '\n'
  | 'f' => some '\x0c'
  | 'r' => some '\r'
  | '"' => some '"'
  | '\\' => some '\\'
  | _ => none

/-- What a backslash and the characters after it stand for. In a text of several
lines, a backslash at the end of a line stands for nothing and takes the
following blanks and newlines with it. -/
def escape (multiline : Bool) : Text → Except Fault (Text × Text)
  | [] => .error .malformed
  | c :: text =>
    if multiline && isGap c then
      match (c :: text).dropWhile isBlank with
      | [] => .ok ([], [])
      | '\n' :: rest => .ok ([], rest.dropWhile isGap)
      | _ => .error .malformed
    else if c = 'u' then numberedChar 4 text
    else if c = 'U' then numberedChar 8 text
    else
      match letterEscape? c with
      | some escaped => .ok ([escaped], text)
      | none => .error .malformed

/-- A text with escapes from behind its opening marks on, in at most `fuel`
pieces. -/
def basicTextWithin (multiline : Bool) : Nat → Text → Except Fault (Text × Text)
  | 0, _ => .error .malformed
  | _ + 1, [] => .error .malformed
  | fuel + 1, c :: text =>
    if c = '"' && !multiline then .ok ([], text)
    else if c = '"' && Text.startsWith text ['"', '"'] then .ok ([], text.drop 2)
    else if c = '\\' then do
      let (piece, rest) ← escape multiline text
      let (more, rest) ← basicTextWithin multiline fuel rest
      return (piece ++ more, rest)
    else if isControl c && !(multiline && c = '\n') then .error .malformed
    else do
      let (more, rest) ← basicTextWithin multiline fuel text
      return (c :: more, rest)

/-- A text with escapes from behind its opening marks on. -/
def basicText (multiline : Bool) (text : Text) : Except Fault (Text × Text) :=
  basicTextWithin multiline (text.length + 1) text

/-- A text without escapes on one line, from behind its opening mark on. -/
def literalText (text : Text) : Except Fault (Text × Text) :=
  let body := text.takeWhile (· != '\'')
  match text.dropWhile (· != '\'') with
  | _ :: rest => if body.any isControl then .error .malformed else .ok (body, rest)
  | [] => .error .malformed

/-- A text without escapes of several lines, from behind its opening marks on. -/
def literalLines : Text → Except Fault (Text × Text)
  | [] => .error .malformed
  | c :: text =>
    if c = '\'' && Text.startsWith text ['\'', '\''] then .ok ([], text.drop 2)
    else if isControl c && c ≠ '\n' then .error .malformed
    else do
      let (more, rest) ← literalLines text
      return (c :: more, rest)

/-- A text of several lines from behind its opening marks on. A newline that
follows these at once is dropped; of the marks at the end, up to two before the
closing three belong to the text. -/
def manyLines (mark : Char) (text : Text) : Except Fault (Text × Text) := do
  let text := if Text.startsWith text ['\n'] then text.drop 1 else text
  let (body, rest) ← if mark = '"' then basicText true text else literalLines text
  let extra := ((rest.take 2).takeWhile (· == mark)).length
  return (body ++ List.replicate extra mark, rest.drop extra)

/-- A text in one of its four spellings, from its opening mark on. -/
def quotedText (mark : Char) (text : Text) : Except Fault (Text × Text) :=
  if Text.startsWith text [mark, mark, mark] then manyLines mark (text.drop 3)
  else if mark = '"' then basicText false (text.drop 1)
  else literalText (text.drop 1)

end SourceDiagnostics.Toml
