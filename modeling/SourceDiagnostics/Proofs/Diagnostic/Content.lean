/-
# Reading a layout back

What a layout shows can be read off it without knowing the diagnostic: the messages, the
location behind each of them or that there is none, and the quoted lines, each with its
indentation apart from its code. So diagnostics with equal layouts show equal things, even
where a message imitates the layout.

A text is told by its style, not by its characters. Only line breaks and the indentation
of quoted lines have a style in common; there a newline decides, because lines are indented
by spaces and tabs alone. Indentation and code that are missing were empty.

The layout is read from its end to its start. A location stands behind its message, and
the parts of a quoted line stand behind their mark, so they have been read when the message
or the mark is reached.
-/

import SourceDiagnostics.Proofs.Diagnostic.Lines

namespace SourceDiagnostics

namespace Diagnostic

/-! ## Messages with their locations -/

/-- The location that is shown behind each message, if any. There is no telling when one of
them cannot be printed. -/
def locations (diagnostic : Diagnostic) (base : Path) :
    Except Text.NumeralFault (List (Option Text)) := do
  let location ← diagnostic.startLocation base
  let others ← diagnostic.notes.mapM (noteLocation base)
  return location :: others

private theorem mapM_noteLocation_eq_ok {base : Path} {notes : List Note}
    (writable : ∀ note ∈ notes, note.Writable) :
    notes.mapM (noteLocation base) = .ok (notes.map (Note.location? base)) := by
  induction notes with
  | nil => rfl
  | cons note rest ih =>
      rw [List.forall_mem_cons] at writable
      rw [List.mapM_cons, noteLocation_eq_ok_iff.mpr ⟨writable.1, rfl⟩, ih writable.2]
      rfl

theorem Writable.locations {diagnostic : Diagnostic} (writable : diagnostic.Writable)
    (base : Path) :
    diagnostic.locations base =
      .ok (diagnostic.startLocation? base :: diagnostic.notes.map (Note.location? base)) := by
  rw [Diagnostic.locations, startLocation_eq_ok_iff.mpr ⟨writable.start, rfl⟩,
    mapM_noteLocation_eq_ok writable.notes]
  rfl

end Diagnostic

/-- What a layout shows. -/
structure Content where
  messages : List Text := []
  /-- The location that is shown behind each message, if any. -/
  locations : List (Option Text) := []
  excerpt : Excerpt := []
deriving DecidableEq

namespace Content

/-- The content with a message in front, and its location if one is shown. -/
def addMessage (content : Content) (message : Text) (location : Option Text) : Content :=
  { content with
    messages := message :: content.messages
    locations := location :: content.locations }

/-- The content with a quoted line in front. -/
def addLine (content : Content) (line : ExcerptLine) : Content :=
  { content with excerpt := line :: content.excerpt }

end Content

/-- What has been read of a layout, from its end. -/
structure Reading where
  content : Content
  /-- A location whose message has not been reached. -/
  location : Option Text
  /-- The parts of a quoted line whose mark has not been reached. -/
  line : ExcerptLine
deriving DecidableEq

namespace Reading

open Diagnostic

/-- Nothing has been read that still waits for its message or mark. -/
def settled (content : Content) : Reading := ⟨content, none, ⟨[], []⟩⟩

/-- A location without what stands around it behind a message. -/
def locationOf (text : Text) : Text := (text.drop locationLabel.length).dropLast

/-- Reads the segment in front of those that have been read. -/
def read (segment : Segment) (reading : Reading) : Reading :=
  match segment.style with
  | .primaryLabel | .noteLabel => reading
  | .primaryMessage | .noteText =>
    { reading with
      content := reading.content.addMessage segment.text reading.location
      location := none }
  | .location => { reading with location := some (locationOf segment.text) }
  | .snippetQuote =>
    { reading with
      content := reading.content.addLine reading.line
      line := ⟨[], []⟩ }
  | .snippetEmphasis => { reading with line := { reading.line with code := segment.text } }
  | .plain =>
    if segment.text.contains '\n' then reading
    else { reading with line := { reading.line with indent := segment.text } }

/-- Reads segments in front of those that have been read, the last one first. -/
def readAll (segments : List Segment) (reading : Reading) : Reading := segments.foldr read reading

theorem readAll_append (first second : List Segment) (reading : Reading) :
    readAll (first ++ second) reading = readAll first (readAll second reading) :=
  List.foldr_append

end Reading

/-- Reads a whole layout. -/
def Content.ofSegments (segments : List Segment) : Content :=
  (Reading.readAll segments (.settled {})).content

namespace Reading

open Diagnostic

/-! ## Messages and locations -/

private theorem locationOf_parenthesized (location : Text) :
    locationOf (parenthesized location) = location := by
  rw [locationOf, parenthesized, List.append_assoc, List.drop_left, List.dropLast_concat]

variable (base : Path) (content : Content)

/-- A location waits for its message. -/
theorem readAll_locationSegments (location : Option Text) :
    readAll (locationSegments location) (settled content) = ⟨content, location, ⟨[], []⟩⟩ := by
  cases location with
  | none => rfl
  | some location =>
      change Reading.mk content (some (locationOf (parenthesized location))) ⟨[], []⟩ = _
      rw [locationOf_parenthesized]

/-- The line of the message tells the message and its location. -/
theorem readAll_headSegments (message : Text) (location : Option Text) :
    readAll (headSegments message location) (settled content) =
      settled (content.addMessage message location) := by
  calc
    _ = read ⟨messageLabel, .primaryLabel⟩ (read ⟨message, .primaryMessage⟩
          (readAll (locationSegments location) (settled content))) := rfl
    _ = _ := by
      rw [readAll_locationSegments]
      rfl

/-- The line of a note tells its message and its location. -/
theorem readAll_noteSegments (message : Text) (location : Option Text) :
    readAll (noteSegments message location) (settled content) =
      settled (content.addMessage message location) := by
  calc
    _ = read ⟨['\n'], .plain⟩ (read ⟨noteLabel, .noteLabel⟩ (read ⟨message, .noteText⟩
          (readAll (locationSegments location) (settled content)))) := rfl
    _ = _ := by
      rw [readAll_locationSegments]
      rfl

/-- The lines of notes tell all their messages and locations, in their order. -/
theorem readAll_notes (notes : List Note) :
    readAll (notes.flatMap fun note => noteSegments note.message (note.location? base))
        (settled content) =
      settled { content with
        messages := notes.map Note.message ++ content.messages
        locations := notes.map (Note.location? base) ++ content.locations } := by
  induction notes with
  | nil => rfl
  | cons note rest ih =>
      rw [List.flatMap_cons, readAll_append, ih, readAll_noteSegments]
      rfl

/-! ## Quoted lines -/

/-- Code that is missing was empty. -/
private theorem readAll_code (code : Text) :
    readAll (if code.isEmpty then [] else [⟨code, .snippetEmphasis⟩]) (settled content) =
      ⟨content, none, ⟨[], code⟩⟩ := by
  cases code <;> rfl

/-- Indentation that is missing was empty, and other indentation is no line break. -/
private theorem readAll_indent {indent : Text} (spaces : '\n' ∉ indent) (code : Text) :
    readAll (if indent.isEmpty then [] else [⟨indent, .plain⟩]) ⟨content, none, ⟨[], code⟩⟩ =
      ⟨content, none, ⟨indent, code⟩⟩ := by
  cases indent with
  | nil => rfl
  | cons c rest => exact if_neg (by simpa using spaces)

/-- A quoted line tells its indentation and its code. -/
theorem readAll_lineSegments {line : ExcerptLine} (spaces : '\n' ∉ line.indent) :
    readAll (lineSegments line) (settled content) = settled (content.addLine line) := by
  calc
    _ = read ⟨['\n'], .plain⟩ (read ⟨quoteMark, .snippetQuote⟩
          (readAll ((if line.indent.isEmpty then [] else [⟨line.indent, .plain⟩]) ++
            (if line.code.isEmpty then [] else [⟨line.code, .snippetEmphasis⟩]))
            (settled content))) := rfl
    _ = read ⟨['\n'], .plain⟩ (read ⟨quoteMark, .snippetQuote⟩ ⟨content, none, line⟩) := by
      rw [readAll_append, readAll_code, readAll_indent content spaces]
    _ = settled (content.addLine line) := rfl

/-- Quoted lines tell all their parts, in their order. -/
theorem readAll_lines {lines : Excerpt} (spaces : ∀ line ∈ lines, '\n' ∉ line.indent) :
    readAll (lines.flatMap lineSegments) (settled content) =
      settled { content with excerpt := lines ++ content.excerpt } := by
  induction lines with
  | nil => rfl
  | cons line rest ih =>
      rw [List.forall_mem_cons] at spaces
      rw [List.flatMap_cons, readAll_append, ih spaces.2, readAll_lineSegments _ spaces.1]
      rfl

/-- An excerpt is read back from its part of the layout. -/
theorem readAll_excerptSegments {excerpt : Excerpt}
    (spaces : ∀ line ∈ excerpt, '\n' ∉ line.indent) :
    readAll (excerptSegments excerpt) (settled {}) = settled { excerpt := excerpt } := by
  rw [excerptSegments]
  by_cases empty : excerpt = []
  · rw [empty]
    rfl
  · rw [if_neg (List.isEmpty_iff.not.mpr empty)]
    calc
      _ = readAll (excerpt.flatMap lineSegments ++ [⟨['\n', '\n'], .plain⟩]) (settled {}) := rfl
      _ = readAll (excerpt.flatMap lineSegments) (settled {}) := by
        rw [readAll_append]
        rfl
      _ = settled { excerpt := excerpt } := by
        rw [readAll_lines {} spaces, List.append_nil]

end Reading

namespace Diagnostic

/-- Quoted lines are indented by spaces and tabs. -/
theorem newline_not_mem_indent {diagnostic : Diagnostic} {line : ExcerptLine}
    (among : line ∈ diagnostic.excerpt) : '\n' ∉ line.indent := by
  obtain ⟨_, _, text, _, rfl⟩ := Excerpt.exists_mem_lines_of_mem_ofPositions among
  intro newline
  rcases (ExcerptLine.quotes_ofLine text).indent _ newline with same | same <;>
    exact absurd same (by decide)

/-- A layout tells what it shows. Whatever characters the texts of a diagnostic hold, reading
its layout gives its messages, the location shown behind each or its absence, and its quoted
lines with their indentation and code. So diagnostics whose layouts are equal, though against
different directories, show the same messages, locations and lines. There is a layout to be
read exactly if the shown locations can be printed. -/
theorem ofSegments_segments :
    (∀ (diagnostic : Diagnostic) (base : Path),
      ((∃ laid, diagnostic.segments base = .ok laid) ↔ diagnostic.Writable) ∧
        ∀ laid, diagnostic.segments base = .ok laid →
          ∃ told, diagnostic.locations base = .ok told ∧
            Content.ofSegments laid = ⟨diagnostic.messages, told, diagnostic.excerpt⟩) ∧
    ∀ (first second : Diagnostic) (base other : Path) (laid : List Segment),
      first.segments base = .ok laid → second.segments other = .ok laid →
        first.messages = second.messages ∧ first.locations base = second.locations other ∧
          first.excerpt = second.excerpt := by
  have decoded (diagnostic : Diagnostic) (base : Path) (laid : List Segment)
      (exist : diagnostic.segments base = .ok laid) :
      ∃ told, diagnostic.locations base = .ok told ∧
        Content.ofSegments laid = ⟨diagnostic.messages, told, diagnostic.excerpt⟩ := by
    obtain ⟨writable, rfl⟩ := segments_eq_ok_iff.mp exist
    have excerpt := Reading.readAll_excerptSegments
      fun line (among : line ∈ diagnostic.excerpt) => newline_not_mem_indent among
    refine ⟨_, writable.locations base, ?_⟩
    rw [Content.ofSegments, layout, Reading.readAll_append, Reading.readAll_append, excerpt,
      Reading.readAll_notes, Reading.readAll_headSegments, List.append_nil, List.append_nil]
    rfl
  refine ⟨fun diagnostic base => ⟨?_, decoded diagnostic base⟩,
    fun first second base other laid exist exist' => ?_⟩
  · simp only [segments_eq_ok_iff, exists_and_left, exists_eq, and_true]
  · obtain ⟨told, located, content⟩ := decoded first base laid exist
    obtain ⟨told', located', content'⟩ := decoded second other laid exist'
    have same := content.symm.trans content'
    exact ⟨congrArg Content.messages same,
      located.trans ((congrArg (fun content => Except.ok content.locations) same).trans located'.symm),
      congrArg Content.excerpt same⟩

/-- A message that imitates a note has the text of a layout with one, and another layout. -/
example :
    let imitation : Diagnostic :=
      { start := .unknown, stop := none, message := "m\n  Note: n".toList }
    let noted : Diagnostic :=
      { start := .unknown, stop := none, message := "m".toList, notes := [⟨"n".toList, none⟩] }
    (imitation.layout .top).flatMap Segment.text = (noted.layout .top).flatMap Segment.text ∧
      (Content.ofSegments (imitation.layout .top)).messages = ["m\n  Note: n".toList] ∧
      (Content.ofSegments (noted.layout .top)).messages = ["m".toList, "n".toList] := by
  decide +kernel

end Diagnostic

end SourceDiagnostics
