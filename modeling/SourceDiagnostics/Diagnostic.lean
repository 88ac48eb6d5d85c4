/-
# Diagnostics

A diagnostic is what a tool has to say about a source: a message, the place it
is about, and notes stacked upon it. The place is a point when there is no end
and a range when there is one. A note may point at a place of its own.

The layout of a diagnostic is

    Error: MESSAGE (at LOCATION)
      Note: MESSAGE
      Note: MESSAGE (at LOCATION)

    > QUOTED LINE
    > QUOTED LINE

with an empty line after the excerpt. A diagnostic without a source has no
location behind its message, whereas a note that has a position says where it
is even if that is unknown. Without an excerpt, the layout ends with the notes
and has no newline at its end.

The numbers of a position are taken as they are given, so one that a location is
to show may be too long to be written. Then there is no layout at all.
-/

import SourceDiagnostics.Excerpt
import SourceDiagnostics.Place
import SourceDiagnostics.Style

namespace SourceDiagnostics

/-- A supplementary message. -/
structure Note where
  message : Text
  position : Option Position := none
deriving DecidableEq

/-- An error about a source, with its notes. -/
structure Diagnostic where
  start : Position
  /-- Where the error ends, if it covers a range. -/
  stop : Option Position
  message : Text
  /-- The notes, the earliest first. -/
  notes : List Note := []
deriving DecidableEq

namespace Diagnostic

/-- An error about a place, without notes. -/
def ofPlace (place : Place) (message : Text) : Diagnostic :=
  ⟨place.start, place.stop, message, []⟩

/-- The diagnostic with one more note. -/
def addNote (diagnostic : Diagnostic) (note : Note) : Diagnostic :=
  { diagnostic with notes := diagnostic.notes ++ [note] }

/-- The message and after it those of the notes. -/
def messages (diagnostic : Diagnostic) : List Text :=
  diagnostic.message :: diagnostic.notes.map Note.message

/-- The quoted lines of the place that the diagnostic is about. -/
def excerpt (diagnostic : Diagnostic) : Excerpt :=
  .ofPositions diagnostic.start diagnostic.stop

/-- What stands behind a message: its location, if one is shown. -/
def locationSegments : Option Text → List Segment
  | none => []
  | some location => [⟨" (at ".toList ++ location ++ [')'], .location⟩]

/-- The line of the layout that holds the message. -/
def headSegments (message : Text) (location : Option Text) : List Segment :=
  ⟨"Error: ".toList, .primaryLabel⟩ :: ⟨message, .primaryMessage⟩ :: locationSegments location

/-- The line of the layout that holds a note, from the newline before it on. -/
def noteSegments (message : Text) (location : Option Text) : List Segment :=
  ⟨['\n'], .plain⟩ :: ⟨"  Note: ".toList, .noteLabel⟩ :: ⟨message, .noteText⟩ ::
    locationSegments location

/-- A quoted line of the layout, from the newline before it on. Empty parts of
the line leave no segment. -/
def lineSegments (line : ExcerptLine) : List Segment :=
  ⟨['\n'], .plain⟩ :: ⟨"> ".toList, .snippetQuote⟩ ::
    (if line.indent.isEmpty then [] else [⟨line.indent, .plain⟩]) ++
    (if line.code.isEmpty then [] else [⟨line.code, .snippetEmphasis⟩])

/-- The quoted lines of the layout with the empty lines around them. -/
def excerptSegments (excerpt : Excerpt) : List Segment :=
  if excerpt.isEmpty then []
  else ⟨['\n'], .plain⟩ :: excerpt.flatMap lineSegments ++ [⟨['\n', '\n'], .plain⟩]

/-- The location behind the message: that of the start, if it has a source. -/
def startLocation (diagnostic : Diagnostic) (base : Path) :
    Except Text.NumeralFault (Option Text) :=
  if diagnostic.start.isKnown then (diagnostic.start.location base).map some else .ok none

/-- The location behind the message of a note: that of its position, if it has one. -/
def noteLocation (base : Path) (note : Note) : Except Text.NumeralFault (Option Text) :=
  match note.position with
  | none => .ok none
  | some position => (position.location base).map some

/-- The lines of the layout that hold notes. -/
def notesSegments (base : Path) : List Note → Except Text.NumeralFault (List Segment)
  | [] => .ok []
  | note :: notes => do
    let location ← noteLocation base note
    return noteSegments note.message location ++ (← notesSegments base notes)

/-- The diagnostic laid out, with paths shortened against `base`. There is no
layout when a location cannot be printed. -/
def segments (diagnostic : Diagnostic) (base : Path) :
    Except Text.NumeralFault (List Segment) := do
  let location ← diagnostic.startLocation base
  let notes ← notesSegments base diagnostic.notes
  return headSegments diagnostic.message location ++ notes ++ excerptSegments diagnostic.excerpt

/-- The layout without any style. -/
def text (diagnostic : Diagnostic) (base : Path) : Except Text.NumeralFault Text :=
  (diagnostic.segments base).map (List.flatMap Segment.text)

end Diagnostic

/-- A diagnostic written out by a renderer in a working directory. -/
def Renderer.render (renderer : Renderer) (directory : Path) (diagnostic : Diagnostic) :
    Except Text.NumeralFault Text :=
  (diagnostic.segments (renderer.base.getD directory)).map renderer.segments

end SourceDiagnostics
