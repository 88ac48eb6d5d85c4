/-
# Quoted texts

Messages quote the texts they talk about, so that a reader sees where a path or
a value begins and ends and which characters it holds. A quoted text is one
line of printable characters whatever the text holds.

The quotation mark is the single one, unless the text holds a single mark and
no double one. Inside, the backslash and the chosen mark take a backslash,
newline, carriage return and tab have their usual letters, and every other
unprintable character is written by its number.

Unprintable are the controls, all spaces and separators but the space itself,
the format characters, the characters for private use and the noncharacters. A
character that has not been assigned yet counts as printable.
-/

import SourceDiagnostics.Text

namespace SourceDiagnostics.Text

/-- The ranges of unprintable characters, except for the noncharacters that end
the planes. -/
def unprintableRanges : List (Nat × Nat) :=
  [(0x00, 0x1f), (0x7f, 0xa0), (0xad, 0xad), (0x600, 0x605), (0x61c, 0x61c), (0x6dd, 0x6dd),
    (0x70f, 0x70f), (0x890, 0x891), (0x8e2, 0x8e2), (0x1680, 0x1680), (0x180e, 0x180e),
    (0x2000, 0x200f), (0x2028, 0x202f), (0x205f, 0x2064), (0x2066, 0x206f), (0x3000, 0x3000),
    (0xe000, 0xf8ff), (0xfdd0, 0xfdef), (0xfeff, 0xfeff), (0xfff9, 0xfffb), (0x110bd, 0x110bd),
    (0x110cd, 0x110cd), (0x13430, 0x13438), (0x1bca0, 0x1bca3), (0x1d173, 0x1d17a),
    (0xe0001, 0xe0001), (0xe0020, 0xe007f), (0xf0000, 0xffffd), (0x100000, 0x10fffd)]

/-- Whether a character is one of the last two of its plane, which are no
characters. -/
def isPlaneEnd (c : Char) : Bool := 0xfffe ≤ c.toNat % 0x10000

/-- Whether a character is written by its number inside quotation marks. -/
def isUnprintable (c : Char) : Bool :=
  isPlaneEnd c || unprintableRanges.any fun (low, high) => low ≤ c.toNat && c.toNat ≤ high

/-- The number of a character after a backslash: two, four or eight digits, the
fewest that hold it. -/
def numericEscape (c : Char) : Text :=
  if c.toNat < 0x100 then '\\' :: 'x' :: hexadecimal 2 c.toNat
  else if c.toNat < 0x10000 then '\\' :: 'u' :: hexadecimal 4 c.toNat
  else '\\' :: 'U' :: hexadecimal 8 c.toNat

/-- One character as it stands between the marks `mark`. -/
def quotedChar (mark c : Char) : Text :=
  if c = mark || c = '\\' then ['\\', c]
  else if c = '\n' then ['\\', 'n']
  else if c = '\r' then ['\\', 'r']
  else if c = '\t' then ['\\', 't']
  else if isUnprintable c then numericEscape c
  else [c]

/-- The mark a text is quoted with. -/
def quotationMark (text : Text) : Char :=
  if text.contains '\'' && !text.contains '"' then '"' else '\''

/-- A text between quotation marks. -/
def quoted (text : Text) : Text :=
  let mark := text.quotationMark
  mark :: text.flatMap (quotedChar mark) ++ [mark]

end SourceDiagnostics.Text
