/-
# Excerpts

An excerpt quotes whole lines of a source. A range that begins or ends inside a
line quotes all of that line, and a point quotes the line it lies on.

A range is found by its offsets and a point by its line number, because a
position made without a lexer may know its line and no usable offset. A range
covers its offsets up to, but not including, its end; so one that ends on a
newline stays on the line which that newline ends.

When there is nothing to see, that is when the range or the point lies on one
blank line, the excerpt is empty. Blank lines between others are quoted.
-/

import SourceDiagnostics.Source

namespace SourceDiagnostics

/-- A quoted line, its indentation apart. -/
structure ExcerptLine where
  /-- The spaces and tabs at the beginning. -/
  indent : Text
  code : Text
deriving DecidableEq, Repr

namespace ExcerptLine

/-- Spaces and tabs are what indents a line. -/
def isIndent (c : Char) : Bool := c = ' ' || c = '\t'

/-- The quoted form of a line. One carriage return at its end belongs to the
line end and is not quoted. -/
def ofLine (line : Text) : ExcerptLine :=
  let text := line.dropCarriageReturn
  ⟨text.takeWhile isIndent, text.dropWhile isIndent⟩

/-- The quoted line as one text. -/
def text (line : ExcerptLine) : Text := line.indent ++ line.code

end ExcerptLine

/-- Quoted lines, in order. -/
abbrev Excerpt := List ExcerptLine

namespace Excerpt

/-- The text of the lines that the offsets from `first` up to `last` touch. It
begins where the line of the one begins and ends where that of the last offset
ends. -/
def region (code : Text) (first last : Nat) : Text :=
  let left := first - (Text.lastLine (code.take first)).length
  let right := last - 1 + (Text.firstLine (code.drop (last - 1))).length
  (code.take right).drop left

/-- The lines that the offsets from `start` up to `stop` touch. Offsets outside
the text are moved to its ends; a range that is then empty touches none. -/
def ofRange (code : Text) (start stop : Int) : Excerpt :=
  let first := (max start 0).toNat
  let last := (min stop code.length).toNat
  if first < last then
    let region : Text := region code first last
    if region.isBlank then [] else region.lines.map ExcerptLine.ofLine
  else []

/-- What remains of a text after its first `count` lines and their newlines;
`none` when it has fewer newlines than that. -/
def skipLines : Nat → Text → Option Text
  | 0, text => some text
  | count + 1, text =>
    match text.dropWhile (· != '\n') with
    | [] => none
    | _ :: rest => skipLines count rest

/-- The line of the given number, counted from one, unless it is blank or there
is no such line. -/
def ofLineNumber (code : Text) (line : Int) : Excerpt :=
  if line < 1 then []
  else
    match skipLines (line - 1).toNat code with
    | none => []
    | some rest => if rest.firstLine.isBlank then [] else [ExcerptLine.ofLine rest.firstLine]

/-- The lines of a point, when `stop` is absent, or of the range from `start`
to `stop`. Both are looked up in the source of `start`; without one there is
nothing to quote. -/
def ofPositions (start : Position) (stop : Option Position) : Excerpt :=
  match start.source with
  | none => []
  | some source =>
    match stop with
    | none => ofLineNumber source.code start.line
    | some stop => ofRange source.code start.offset stop.offset

end Excerpt

end SourceDiagnostics
