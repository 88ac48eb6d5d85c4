/-
# Keys of a document

A key has parts with points between them, and each part names a step into a
nested table. A part is written bare when it consists of letters, digits, dashes
and underscores, and otherwise as a text on one line. Blanks may stand around the
points.
-/

import SourceDiagnostics.Toml.Quotation

namespace SourceDiagnostics.Toml

/-- The characters of keys that need no quotation marks. -/
def isBareKeyChar (c : Char) : Bool := c.isAlphanum || c = '-' || c = '_'

/-- Whether a key can begin with a character. -/
def isKeyStart (c : Char) : Bool := isBareKeyChar c || c = '"' || c = '\''

/-- One part of a key. -/
def keyPart : Text → Except Fault (Text × Text)
  | '"' :: text => basicText false text
  | '\'' :: text => literalText text
  | text =>
    let part := text.takeWhile isBareKeyChar
    if part.isEmpty then .error .malformed else .ok (part, text.dropWhile isBareKeyChar)

/-- The parts of a key, with points between them, and the blanks behind it; at
most `fuel` parts. -/
def keyWithin : Nat → Text → Except Fault (List Text × Text)
  | 0, _ => .error .malformed
  | fuel + 1, text => do
    let (part, rest) ← keyPart text
    match skipBlanks rest with
    | '.' :: rest => do
      let (parts, rest) ← keyWithin fuel (skipBlanks rest)
      return (part :: parts, rest)
    | rest => return ([part], rest)

/-- The parts of a key, with points between them, and the blanks behind it. -/
def key (text : Text) : Except Fault (List Text × Text) := keyWithin (text.length + 1) text

end SourceDiagnostics.Toml
