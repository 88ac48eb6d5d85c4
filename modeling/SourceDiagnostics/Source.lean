/-
# Sources and positions

A source is a unit of text with the path that locations show for it. A position
is a point in a source: an offset from its start, counted from zero, and a line
and a column, counted from one.

Positions are taken as they are given. A lexer that tracks offset, line and
column may pass all three without recomputing any, so the three numbers need
not agree with each other or with the source, and a position may belong to no
source at all. `Source.position` is the one place where they are computed.

Only a source that was read from a file may have its path shortened against a
base directory; the name of any other source is no path in the file tree.
-/

import SourceDiagnostics.Path

namespace SourceDiagnostics

/-- A unit of source text. -/
structure Source where
  /-- The path that locations show. -/
  path : Text
  /-- Whether the text was read from a file of that path. -/
  onDisk : Bool
  code : Text
deriving DecidableEq

/-- A point in a source, or in none. -/
structure Position where
  /-- Characters before the point. -/
  offset : Int := 0
  /-- The line of the point, counted from one. -/
  line : Int := 0
  column : Int := 0
  /-- The source that holds the point; a position without one is unknown. -/
  source : Option Source := none
deriving DecidableEq

namespace Source

/-- The path shown for text that was handed over without one. -/
def unnamed : Text := "<dummy>".toList

/-- The path shown for text from standard input. -/
def standardInput : Text := "<stdin>".toList

/-- A source made from text in memory. -/
def ofText (code : Text) (path : Text := unnamed) : Source := ⟨path, false, code⟩

/-- A source made from what standard input held. -/
def ofInput (code : Text) : Source := ⟨standardInput, false, code⟩

/-- The path as a location shows it: seen from `base` when the source lies
properly within it, and as it was given otherwise. -/
def displayPath (source : Source) (base : Path) : Text :=
  let path := Path.ofText source.path
  if source.onDisk && path ≠ base && path.isWithin base then (path.relativeTo base).text
  else source.path

/-- The nearest offset inside a text: zero for a negative number, the length for
one beyond the end. -/
def clamp (source : Source) (offset : Int) : Nat :=
  (min offset source.code.length).toNat

/-- The position at an offset, moved into the text if it lies outside. The line
is one more than the newlines before the point, and the column one more than
the characters since the last of them. -/
def position (source : Source) (offset : Int) : Position :=
  let before : Text := source.code.take (source.clamp offset)
  { offset := source.clamp offset
    line := before.newlines + 1
    column := before.lastLine.length + 1
    source := some source }

end Source

namespace Position

/-- The position about which nothing is known. -/
def unknown : Position := {}

/-- Whether a position belongs to a source. -/
def isKnown (position : Position) : Bool := position.source.isSome

/-- What stands for the location of a position without a source. -/
def unknownLocation : Text := "<unknown>".toList

/-- The location as reports print it: path, line and column with colons
between them. Numbers of too many digits cannot be printed. -/
def location (position : Position) (base : Path) : Except Text.NumeralFault Text :=
  match position.source with
  | none => .ok unknownLocation
  | some source => do
    let line ← Text.numeral position.line
    let column ← Text.numeral position.column
    return source.displayPath base ++ ':' :: line ++ ':' :: column

end Position

end SourceDiagnostics
