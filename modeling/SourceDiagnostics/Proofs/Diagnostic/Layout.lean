/-
# When there is a layout

A diagnostic is laid out unless one of the locations that it shows holds a number of too
many digits. This module parts the two questions that a layout raises: whether there is
one, which the numbers of the shown positions alone decide, and what it is. The latter is
told by functions that spell every number in full, so what is proved of them needs no word
about numbers.

Only positions that are taken as they are given can have such numbers. A position that is
computed from an offset counts lines and characters of its text, and no text within reach
is long enough for a count to be refused.
-/

import Mathlib.Algebra.Group.Nat.Defs
import SourceDiagnostics.Diagnostic

namespace SourceDiagnostics

/-- Steps one after the other come to an end if each of them does. -/
theorem bind_eq_ok_iff {ε α β : Type} {answer : Except ε α} {next : α → Except ε β} {result : β} :
    (answer >>= next) = .ok result ↔ ∃ value, answer = .ok value ∧ next value = .ok result := by
  cases answer with
  | error fault => exact ⟨nofun, fun ⟨_, given, _⟩ => nomatch given⟩
  | ok value =>
      exact ⟨fun done => ⟨value, rfl, done⟩, fun ⟨_, given, done⟩ => by cases given; exact done⟩

theorem map_eq_ok_iff {ε α β : Type} {answer : Except ε α} {next : α → β} {result : β} :
    answer.map next = .ok result ↔ ∃ value, answer = .ok value ∧ result = next value := by
  cases answer with
  | error fault => exact ⟨nofun, fun ⟨_, given, _⟩ => nomatch given⟩
  | ok value =>
      exact ⟨fun done => ⟨value, rfl, (Except.ok.inj done).symm⟩,
        fun ⟨_, given, done⟩ => by cases given; rw [done]; rfl⟩

/-- An answer that only a number can prevent, and that is had under a condition, is prevented
exactly if the condition fails. -/
private theorem eq_error_iff_of_eq_ok_iff {α : Type} {answer : Except Text.NumeralFault α}
    {writable : Prop} {value : α}
    (had : ∀ {result}, answer = .ok result ↔ writable ∧ result = value)
    {fault : Text.NumeralFault} : answer = .error fault ↔ ¬ writable := by
  cases answer with
  | ok result => exact iff_of_false nofun fun long => long (had.mp rfl).1
  | error other =>
      cases fault
      cases other
      refine iff_of_true rfl fun holds => ?_
      cases had.mpr ⟨holds, rfl⟩

namespace Text

theorem isWritable_iff {n : Int} : isWritable n = true ↔ n.natAbs < 10 ^ numeralLimit := by
  rw [isWritable, decide_eq_true_iff, ofNat]
  exact Nat.length_toDigits_le_iff (by decide) (by decide)

theorem numeral_eq_ok_iff {n : Int} {text : Text} :
    numeral n = .ok text ↔ isWritable n = true ∧ text = ofInt n := by
  rw [numeral]
  split
  next short => exact ⟨fun given => ⟨short, (Except.ok.inj given).symm⟩, fun given => by rw [given.2]⟩
  next long => exact ⟨nofun, fun given => absurd given.1 long⟩

theorem isDigit_of_mem_ofNat {n : Nat} {c : Char} (mem : c ∈ ofNat n) : c.isDigit = true :=
  Nat.isDigit_of_mem_toDigits (by decide) (by decide) mem

private theorem newline_not_mem_ofInt (n : Int) : '\n' ∉ ofInt n := by
  cases n with
  | ofNat n => exact fun mem => absurd (isDigit_of_mem_ofNat mem) (by decide)
  | negSucc n =>
      rw [ofInt, List.mem_cons, not_or]
      exact ⟨by decide, fun mem => absurd (isDigit_of_mem_ofNat mem) (by decide)⟩

end Text

/-! ## Positions -/

namespace Position

/-- What a location shows of a position can be printed: the numerals of its line and of its
column are short enough. Of a position without a source it shows no number. -/
def Writable (position : Position) : Prop :=
  position.isKnown = true →
    Text.isWritable position.line = true ∧ Text.isWritable position.column = true

instance (position : Position) : Decidable position.Writable :=
  inferInstanceAs (Decidable (_ → _))

/-- The location with its numbers in full, however long they are. -/
def spelled (position : Position) (base : Path) : Text :=
  match position.source with
  | none => unknownLocation
  | some source =>
    source.displayPath base ++ ':' :: Text.ofInt position.line ++ ':' :: Text.ofInt position.column

theorem location_eq_ok_iff {position : Position} {base : Path} {location : Text} :
    position.location base = .ok location ↔ position.Writable ∧ location = position.spelled base := by
  obtain ⟨offset, line, column, _ | source⟩ := position
  · exact ⟨fun given => ⟨nofun, (Except.ok.inj given).symm⟩, fun given => by rw [given.2]; rfl⟩
  · change (Text.numeral line >>= fun line => Text.numeral column >>= fun column =>
      .ok (source.displayPath base ++ ':' :: line ++ ':' :: column)) = .ok location ↔ _
    simp only [bind_eq_ok_iff, Text.numeral_eq_ok_iff]
    constructor
    · rintro ⟨_, ⟨line, rfl⟩, _, ⟨column, rfl⟩, given⟩
      exact ⟨fun _ => ⟨line, column⟩, (Except.ok.inj given).symm⟩
    · rintro ⟨writable, rfl⟩
      obtain ⟨line, column⟩ := writable rfl
      exact ⟨_, ⟨line, rfl⟩, _, ⟨column, rfl⟩, rfl⟩

theorem location_eq_error_iff {position : Position} {base : Path} {fault : Text.NumeralFault} :
    position.location base = .error fault ↔ ¬ position.Writable :=
  eq_error_iff_of_eq_ok_iff location_eq_ok_iff

/-- Only the path in a location can break the line. -/
theorem newline_not_mem_spelled {position : Position} {base : Path}
    (path : ∀ source, position.source = some source → '\n' ∉ source.displayPath base) :
    '\n' ∉ position.spelled base := by
  obtain ⟨offset, line, column, _ | source⟩ := position
  · change '\n' ∉ unknownLocation
    decide
  · change '\n' ∉ source.displayPath base ++ ':' :: Text.ofInt line ++ ':' :: Text.ofInt column
    simp only [List.mem_append, List.mem_cons, not_or]
    exact ⟨⟨path source rfl, by decide, Text.newline_not_mem_ofInt line⟩, by decide,
      Text.newline_not_mem_ofInt column⟩

end Position

/-- A text would have to be longer than any number that can be printed for one of its
positions to have such a number. -/
theorem Source.writable_position (source : Source)
    (short : source.code.length + 1 < 10 ^ Text.numeralLimit)
    (offset : Int) : (source.position offset).Writable := by
  intro _
  have cut : (source.code.take (source.clamp offset)).length ≤ source.code.length :=
    List.length_take_le' _ _
  have lines : Text.newlines (source.code.take (source.clamp offset)) ≤ _ := List.count_le_length
  have columns : (Text.lastLine (source.code.take (source.clamp offset))).length ≤
      (source.code.take (source.clamp offset)).length := by
    rw [Text.lastLine, List.length_reverse]
    exact Nat.le_trans (List.takeWhile_sublist _).length_le (Nat.le_of_eq List.length_reverse)
  rw [Text.isWritable_iff, Text.isWritable_iff]
  constructor
  · change Text.newlines (source.code.take (source.clamp offset)) + 1 < _
    omega
  · change (Text.lastLine (source.code.take (source.clamp offset))).length + 1 < _
    omega

/-! ## Notes -/

namespace Note

/-- The location of a note can be printed if it is to show one. -/
def Writable (note : Note) : Prop := ∀ position, note.position = some position → position.Writable

instance (note : Note) : Decidable note.Writable :=
  match note with
  | ⟨_, none⟩ => isTrue nofun
  | ⟨_, some position⟩ =>
    decidable_of_iff position.Writable ⟨fun writable _ same => Option.some.inj same ▸ writable,
      fun writable => writable position rfl⟩

/-- The location that is shown behind the message of a note: that of its position, if it has
one. -/
def location? (base : Path) (note : Note) : Option Text :=
  note.position.map fun position => position.spelled base

end Note

namespace Diagnostic

/-- Every location that is shown of a diagnostic can be printed. -/
structure Writable (diagnostic : Diagnostic) : Prop where
  start : diagnostic.start.Writable
  notes : ∀ note ∈ diagnostic.notes, note.Writable

instance (diagnostic : Diagnostic) : Decidable diagnostic.Writable :=
  decidable_of_iff (diagnostic.start.Writable ∧ ∀ note ∈ diagnostic.notes, note.Writable)
    ⟨fun both => ⟨both.1, both.2⟩, fun writable => ⟨writable.start, writable.notes⟩⟩

/-- The location that is shown behind the message of an error: that of its start, if this
has a source. -/
def startLocation? (diagnostic : Diagnostic) (base : Path) : Option Text :=
  if diagnostic.start.isKnown then some (diagnostic.start.spelled base) else none

/-- The layout with all numbers in full, however long they are. -/
def layout (diagnostic : Diagnostic) (base : Path) : List Segment :=
  headSegments diagnostic.message (diagnostic.startLocation? base) ++
    diagnostic.notes.flatMap (fun note => noteSegments note.message (note.location? base)) ++
    excerptSegments diagnostic.excerpt

variable {diagnostic : Diagnostic} {base : Path}

theorem noteLocation_eq_ok_iff {note : Note} {location : Option Text} :
    noteLocation base note = .ok location ↔ note.Writable ∧ location = note.location? base := by
  obtain ⟨message, _ | position⟩ := note
  · exact ⟨fun given => ⟨nofun, (Except.ok.inj given).symm⟩, fun given => by rw [given.2]; rfl⟩
  · have whole : (Note.mk message position).Writable ↔ position.Writable :=
      ⟨fun writable => writable position rfl, fun writable _ same => Option.some.inj same ▸ writable⟩
    change (position.location base).map some = .ok location ↔ _
    simp only [map_eq_ok_iff, Position.location_eq_ok_iff, whole]
    exact ⟨fun ⟨_, ⟨writable, told⟩, shown⟩ => ⟨writable, shown.trans (congrArg some told)⟩,
      fun ⟨writable, shown⟩ => ⟨_, ⟨writable, rfl⟩, shown⟩⟩

theorem startLocation_eq_ok_iff {location : Option Text} :
    diagnostic.startLocation base = .ok location ↔
      diagnostic.start.Writable ∧ location = diagnostic.startLocation? base := by
  rw [startLocation, startLocation?]
  split
  next =>
    simp only [map_eq_ok_iff, Position.location_eq_ok_iff]
    exact ⟨fun ⟨_, ⟨writable, told⟩, shown⟩ => ⟨writable, shown.trans (congrArg some told)⟩,
      fun ⟨writable, shown⟩ => ⟨_, ⟨writable, rfl⟩, shown⟩⟩
  next unknown =>
    exact ⟨fun given => ⟨fun known => absurd known unknown, (Except.ok.inj given).symm⟩,
      fun given => by rw [given.2]⟩

private theorem notesSegments_eq_ok_iff {notes : List Note} {laid : List Segment} :
    notesSegments base notes = .ok laid ↔ (∀ note ∈ notes, note.Writable) ∧
      laid = notes.flatMap fun note => noteSegments note.message (note.location? base) := by
  induction notes generalizing laid with
  | nil => exact ⟨fun given => ⟨nofun, (Except.ok.inj given).symm⟩, fun given => by rw [given.2]; rfl⟩
  | cons note rest ih =>
      rw [notesSegments]
      simp only [bind_eq_ok_iff, noteLocation_eq_ok_iff, ih, List.forall_mem_cons, List.flatMap_cons]
      constructor
      · rintro ⟨_, ⟨first, rfl⟩, _, ⟨others, rfl⟩, given⟩
        exact ⟨⟨first, others⟩, (Except.ok.inj given).symm⟩
      · rintro ⟨⟨first, others⟩, rfl⟩
        exact ⟨_, ⟨first, rfl⟩, _, ⟨others, rfl⟩, rfl⟩

/-- A diagnostic is laid out exactly if its locations can be printed. -/
theorem segments_eq_ok_iff {laid : List Segment} :
    diagnostic.segments base = .ok laid ↔ diagnostic.Writable ∧ laid = diagnostic.layout base := by
  rw [segments]
  simp only [bind_eq_ok_iff, startLocation_eq_ok_iff, notesSegments_eq_ok_iff]
  constructor
  · rintro ⟨_, ⟨start, rfl⟩, _, ⟨notes, rfl⟩, given⟩
    exact ⟨⟨start, notes⟩, (Except.ok.inj given).symm⟩
  · rintro ⟨writable, rfl⟩
    exact ⟨_, ⟨writable.start, rfl⟩, _, ⟨writable.notes, rfl⟩, rfl⟩

theorem text_eq_ok_iff {report : Text} :
    diagnostic.text base = .ok report ↔
      diagnostic.Writable ∧ report = (diagnostic.layout base).flatMap Segment.text := by
  rw [text, map_eq_ok_iff]
  simp only [segments_eq_ok_iff]
  exact ⟨fun ⟨_, ⟨writable, laid⟩, told⟩ => ⟨writable, laid ▸ told⟩,
    fun ⟨writable, told⟩ => ⟨_, ⟨writable, rfl⟩, told⟩⟩

/-- Otherwise the complaint is about a number that is too long. -/
theorem text_eq_error_iff {fault : Text.NumeralFault} :
    diagnostic.text base = .error fault ↔ ¬ diagnostic.Writable :=
  eq_error_iff_of_eq_ok_iff text_eq_ok_iff

end Diagnostic

theorem Renderer.render_eq_ok_iff {renderer : Renderer} {directory : Path}
    {diagnostic : Diagnostic} {report : Text} :
    renderer.render directory diagnostic = .ok report ↔ diagnostic.Writable ∧
      report = renderer.segments (diagnostic.layout (renderer.base.getD directory)) := by
  rw [render, map_eq_ok_iff]
  simp only [Diagnostic.segments_eq_ok_iff]
  exact ⟨fun ⟨_, ⟨writable, laid⟩, told⟩ => ⟨writable, laid ▸ told⟩,
    fun ⟨writable, told⟩ => ⟨_, ⟨writable, rfl⟩, told⟩⟩

theorem Renderer.render_eq_error_iff {renderer : Renderer} {directory : Path}
    {diagnostic : Diagnostic} {fault : Text.NumeralFault} :
    renderer.render directory diagnostic = .error fault ↔ ¬ diagnostic.Writable :=
  eq_error_iff_of_eq_ok_iff render_eq_ok_iff

end SourceDiagnostics
