/-
# Diagnostics of a text with paired line ends

A tool that reports by offsets says the same about a text whether its lines end
in a newline or in the pair of a carriage return and a newline. The offsets
differ, and so do the sources that the positions belong to, but none of that is
shown: a location shows the path, the line and the column, and an excerpt shows
lines without their ends.

What a tool reports is kept apart from the source it reports about. An outline
names offsets only, and it becomes a diagnostic once positions are found for them.
-/

import SourceDiagnostics.Diagnostic
import SourceDiagnostics.Proofs.Excerpt.LineEnds

namespace SourceDiagnostics

/-- An error told by offsets, with the notes that are stacked upon it. -/
structure Outline where
  start : Int
  /-- Where the error ends, if it covers a range. -/
  stop : Option Int := none
  message : Text
  /-- What each note says and where it points, if anywhere. -/
  notes : List (Text × Option Int) := []

namespace Outline

/-- The place of the error, once positions are found for offsets. -/
def place (outline : Outline) (locate : Int → Position) : Place :=
  match outline.stop with
  | none => .point (locate outline.start)
  | some stop => .range (locate outline.start) (locate stop)

/-- A note, once a position is found for its offset. -/
def note (locate : Int → Position) (note : Text × Option Int) : Note :=
  ⟨note.1, note.2.map locate⟩

/-- The diagnostic that results when the notes are added to the error one after
the other. -/
def diagnostic (outline : Outline) (locate : Int → Position) : Diagnostic :=
  outline.notes.foldl (fun diagnostic next => diagnostic.addNote (note locate next))
    (.ofPlace (outline.place locate) outline.message)

/-- Adding notes one after the other changes nothing but the notes, which grow at
their end. -/
private theorem foldl_addNote (locate : Int → Position) (notes : List (Text × Option Int))
    (diagnostic : Diagnostic) :
    notes.foldl (fun diagnostic next => diagnostic.addNote (note locate next)) diagnostic =
      { diagnostic with notes := diagnostic.notes ++ notes.map (note locate) } := by
  induction notes generalizing diagnostic with
  | nil => rw [List.foldl_nil, List.map_nil, List.append_nil]
  | cons next rest ih =>
      rw [List.foldl_cons, ih, Diagnostic.addNote, List.map_cons, List.append_assoc,
        List.singleton_append]

variable (outline : Outline) (locate : Int → Position)

theorem diagnostic_eq :
    outline.diagnostic locate =
      { Diagnostic.ofPlace (outline.place locate) outline.message with
        notes := outline.notes.map (note locate) } :=
  foldl_addNote locate outline.notes _

@[simp]
theorem start_diagnostic : (outline.diagnostic locate).start = locate outline.start := by
  rw [diagnostic_eq, place]
  cases outline.stop <;> rfl

@[simp]
theorem stop_diagnostic : (outline.diagnostic locate).stop = outline.stop.map locate := by
  rw [diagnostic_eq, place]
  cases outline.stop <;> rfl

@[simp]
theorem message_diagnostic : (outline.diagnostic locate).message = outline.message := by
  rw [diagnostic_eq]
  rfl

@[simp]
theorem notes_diagnostic : (outline.diagnostic locate).notes = outline.notes.map (note locate) := by
  rw [diagnostic_eq]

/-- The layout of an error is settled by how its locations read and by what it
quotes. -/
theorem segments_diagnostic_congr {first second : Int → Position} (base : Path)
    (known : ∀ offset, (first offset).isKnown = (second offset).isKnown)
    (reads : ∀ offset, (first offset).location base = (second offset).location base)
    (excerpts : (outline.diagnostic first).excerpt = (outline.diagnostic second).excerpt) :
    (outline.diagnostic first).segments base = (outline.diagnostic second).segments base := by
  have head : (outline.diagnostic first).startLocation base =
      (outline.diagnostic second).startLocation base := by
    rw [Diagnostic.startLocation, Diagnostic.startLocation, start_diagnostic, start_diagnostic,
      known, reads]
  have each (next : Text × Option Int) :
      Diagnostic.noteLocation base (note first next) =
        Diagnostic.noteLocation base (note second next) := by
    obtain ⟨said, _ | offset⟩ := next
    · rfl
    · exact congrArg (Except.map some) (reads offset)
  have notes : Diagnostic.notesSegments base (outline.notes.map (note first)) =
      Diagnostic.notesSegments base (outline.notes.map (note second)) := by
    induction outline.notes with
    | nil => rfl
    | cons next rest ih =>
        rw [List.map_cons, List.map_cons, Diagnostic.notesSegments, Diagnostic.notesSegments, each, ih]
        rfl
  rw [Diagnostic.segments, Diagnostic.segments, head, excerpts, message_diagnostic,
    message_diagnostic, notes_diagnostic, notes_diagnostic, notes]

end Outline

/-- A location shows nothing of the line ends. -/
theorem Position.location_pairLineEnds (source : Source) (offset : Int) (base : Path) :
    (source.pairLineEnds.position (source.code.pairedOffset offset)).location base =
      (source.position offset).location base := by
  obtain ⟨line, column⟩ := source.position_pairLineEnds offset
  change (Text.numeral _ >>= fun line => Text.numeral _ >>= fun column =>
      .ok (source.displayPath base ++ ':' :: line ++ ':' :: column)) =
    (Text.numeral _ >>= fun line => Text.numeral _ >>= fun column =>
      .ok (source.displayPath base ++ ':' :: line ++ ':' :: column))
  rw [line, column]

/-- The excerpt of an error shows nothing of the line ends. -/
theorem Diagnostic.excerpt_pairLineEnds (source : Source) (plain : '\r' ∉ source.code)
    (outline : Outline) :
    (outline.diagnostic fun offset =>
        source.pairLineEnds.position (source.code.pairedOffset offset)).excerpt =
      (outline.diagnostic source.position).excerpt := by
  simp only [excerpt, Outline.start_diagnostic, Outline.stop_diagnostic]
  cases outline.stop with
  | none =>
      change Excerpt.ofLineNumber source.code.pairLineEnds _ = Excerpt.ofLineNumber source.code _
      rw [(source.position_pairLineEnds outline.start).1, Excerpt.ofLineNumber_pairLineEnds plain]
  | some stop =>
      rw [Option.map_some, Option.map_some, Excerpt.ofPositions_position,
        Excerpt.ofPositions_position]
      exact Excerpt.ofRange_pairLineEnds source plain outline.start stop

/-- Pairing the line ends of a text changes no diagnostic. Positions at
corresponding offsets have the same line and column, points and ranges quote the
same, and an error with its notes has the same layout, segment by segment and as
one text. -/
theorem diagnostics_pairLineEnds (text path : Text) (plain : '\r' ∉ text) :
    let newline := Source.ofText text path
    let paired := Source.ofText text.pairLineEnds path
    let locate := fun offset : Int => paired.position (text.pairedOffset offset)
    (∀ offset, (locate offset).line = (newline.position offset).line ∧
      (locate offset).column = (newline.position offset).column) ∧
    (∀ line, Excerpt.ofLineNumber paired.code line = Excerpt.ofLineNumber newline.code line) ∧
    (∀ start stop, Excerpt.ofRange paired.code (text.pairedOffset start) (text.pairedOffset stop) =
      Excerpt.ofRange newline.code start stop) ∧
    ∀ (outline : Outline) (base : Path),
      (outline.diagnostic locate).segments base =
        (outline.diagnostic newline.position).segments base ∧
      (outline.diagnostic locate).text base = (outline.diagnostic newline.position).text base := by
  intro newline paired locate
  have layout (outline : Outline) (base : Path) :
      (outline.diagnostic locate).segments base =
        (outline.diagnostic newline.position).segments base :=
    outline.segments_diagnostic_congr base (fun _ => rfl)
      (fun offset => Position.location_pairLineEnds newline offset base)
      (Diagnostic.excerpt_pairLineEnds newline plain outline)
  refine ⟨newline.position_pairLineEnds, Excerpt.ofLineNumber_pairLineEnds plain,
    Excerpt.ofRange_pairLineEnds newline plain, fun outline base => ⟨layout outline base, ?_⟩⟩
  rw [Diagnostic.text, Diagnostic.text, layout]

/-- Quoting from within the first line up to the last newline, over a blank line,
the counterparts of the offsets 1 and 7 are 1 and 9. -/
theorem diagnostics_pairLineEnds_blank_line :
    '\r' ∉ "ab\n\n c\n".toList ∧
      Excerpt.ofRange "ab\r\n\r\n c\r\n".toList 1 9 = Excerpt.ofRange "ab\n\n c\n".toList 1 7 :=
  ⟨by decide, (diagnostics_pairLineEnds "ab\n\n c\n".toList [] (by decide)).2.2.1 1 7⟩

end SourceDiagnostics
