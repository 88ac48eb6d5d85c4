/-
# Styled text

A report is laid out as a list of segments, each a text with a style. A style
says what a piece of text is, not how it looks: it is the renderer that decides
whether and how a style is shown on a terminal.

A colored segment is opened by a control sequence and closed by the one that
resets the terminal. Styles that have no look of their own, and segments
without text, are written bare, so nothing is ever opened without being closed.
-/

import SourceDiagnostics.Path
import SourceDiagnostics.Text.Quoted

namespace SourceDiagnostics

/-- What a piece of a report is. -/
inductive Style where
  | plain
  | primaryLabel
  | primaryMessage
  | location
  | noteLabel
  | noteText
  | snippetQuote
  | snippetEmphasis
deriving DecidableEq, Repr

/-- A piece of text with its style. -/
structure Segment where
  text : Text
  style : Style := .plain
deriving DecidableEq, Repr

namespace Style

/-- All styles. -/
def all : List Style :=
  [.plain, .primaryLabel, .primaryMessage, .location, .noteLabel, .noteText, .snippetQuote,
    .snippetEmphasis]

/-- The name of a style in configuration and exchange. -/
def name : Style → Text
  | .plain => "plain".toList
  | .primaryLabel => "primary-label".toList
  | .primaryMessage => "primary-message".toList
  | .location => "location".toList
  | .noteLabel => "note-label".toList
  | .noteText => "note-text".toList
  | .snippetQuote => "snippet-quote-marker".toList
  | .snippetEmphasis => "snippet-emphasis".toList

/-- The style of a name. -/
def ofName? (name : Text) : Option Style := all.find? (·.name = name)

/-- The complaint about a name that no style has. -/
def unknownMessage (name : Text) : Text := name.quoted ++ " is not a valid Style".toList

end Style

/-- How segments are shown. -/
structure Renderer where
  /-- Whether styles are shown at all. -/
  color : Bool := true
  emphasize : Bool := false
  /-- The directory against which paths are shortened; the working directory
  when absent. -/
  base : Option Path := none
deriving DecidableEq

namespace Renderer

/-- The control sequence that ends a style. -/
def reset : Text := "\x1b[0m".toList

/-- The control sequence that begins a style: red, bold, dim and green for the
labels, the message and locations, bold and underlined for quoted code. Styles
that look like plain text have none. -/
def opening (renderer : Renderer) (style : Style) : Option Text :=
  if renderer.color then
    match style with
    | .primaryLabel => some "\x1b[31m".toList
    | .primaryMessage => some "\x1b[1m".toList
    | .location => some "\x1b[2m".toList
    | .noteLabel => some "\x1b[32m".toList
    | .snippetEmphasis => if renderer.emphasize then some "\x1b[1;4m".toList else none
    | .plain | .noteText | .snippetQuote => none
  else none

/-- One segment as it is written out. -/
def segment (renderer : Renderer) (segment : Segment) : Text :=
  match renderer.opening segment.style with
  | none => segment.text
  | some opening => if segment.text.isEmpty then [] else opening ++ segment.text ++ reset

/-- Segments as they are written out, one after the other. -/
def segments (renderer : Renderer) (segments : List Segment) : Text :=
  segments.flatMap renderer.segment

end Renderer

end SourceDiagnostics
