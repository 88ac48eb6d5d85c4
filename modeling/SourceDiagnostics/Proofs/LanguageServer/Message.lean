/-
# What an editor is told

A conversion for an editor goes through positions one after the other and stops at the first
whose numbers are too great. So there are two kinds of answers, and this module describes both
for every conversion at once: the fault of the first such position, or, when there is none, a
value in which each position has its point. A conversion that is made of others goes through
their positions in turn.

Nothing is lost when a diagnostic is converted, and nothing is told twice. A note that points
into a source is told as related information, and any other is a line of the message, both in
the order of the notes. Positions without a source belong to notes of the second kind. They
are no part of the conversion, so their numbers may be as great as they like.
-/

import SourceDiagnostics.LanguageServer
import Mathlib.Data.List.Forall2

namespace SourceDiagnostics.LanguageServer

/-! ## Positions and points -/

/-- A position with a number that is beyond the last line or character of an editor. Counted
from one, the last is 2³¹. -/
def TooGreat (position : Position) : Prop :=
  2147483648 < position.line ∨ 2147483648 < position.column

/-- The faults of a position. A line that is too great hides the column. -/
inductive Refuses (position : Position) : Fault → Prop
  | line (great : 2147483648 < position.line) :
      Refuses position (.line (position.line - 1).toNat)
  | character (fits : position.line ≤ 2147483648) (great : 2147483648 < position.column) :
      Refuses position (.character (position.column - 1).toNat)

/-- The faults of positions that are gone through in turn. -/
inductive FirstRefused : List Position → Fault → Prop
  | here {position : Position} {fault : Fault} (refused : Refuses position fault)
      (rest : List Position) : FirstRefused (position :: rest) fault
  | later {position : Position} {fault : Fault} {rest : List Position}
      (fits : ¬ TooGreat position) (refused : FirstRefused rest fault) :
      FirstRefused (position :: rest) fault

/-- A point is that of a position, counted from zero and within the bounds of an editor. -/
structure Point.IsOf (point : Point) (position : Position) : Prop where
  /-- The line before the first one counts as the first. -/
  line : (point.line : Int) = max (position.line - 1) 0
  character : (point.character : Int) = max (position.column - 1) 0
  line_le : point.line ≤ 2147483647
  character_le : point.character ≤ 2147483647

/-- A range is that from one position up to another, or empty at the one if there is no
other. -/
structure Range.IsOf (range : Range) (one : Position) (other : Option Position) : Prop where
  start : range.start.IsOf one
  stop : ∀ position, other = some position → range.stop.IsOf position
  /-- Without another, it ends where it begins. -/
  empty : other = none → range.stop = range.start

theorem Refuses.tooGreat {position : Position} {fault : Fault} (refused : Refuses position fault) :
    TooGreat position := by
  cases refused with
  | line great => exact .inl great
  | character _ great => exact .inr great

theorem Refuses.unique {position : Position} {first second : Fault}
    (one : Refuses position first) (other : Refuses position second) : first = second := by
  cases one with
  | line great =>
      cases other with
      | line => rfl
      | character fits => omega
  | character fits =>
      cases other with
      | line great => omega
      | character => rfl

namespace FirstRefused

variable {positions : List Position} {fault : Fault}

theorem exists_tooGreat (refused : FirstRefused positions fault) :
    ∃ position ∈ positions, TooGreat position := by
  induction refused with
  | here refused => exact ⟨_, List.mem_cons_self, refused.tooGreat⟩
  | later _ _ ih =>
      obtain ⟨position, among, great⟩ := ih
      exact ⟨position, List.mem_cons_of_mem _ among, great⟩

/-- Only one fault can be the first. -/
theorem unique {other : Fault} (one : FirstRefused positions fault)
    (another : FirstRefused positions other) : fault = other := by
  induction one with
  | here refused =>
      cases another with
      | here again => exact refused.unique again
      | later fits _ => exact absurd refused.tooGreat fits
  | later fits _ ih =>
      cases another with
      | here refused => exact absurd refused.tooGreat fits
      | later _ rest => exact ih rest

theorem append_right (refused : FirstRefused positions fault) (others : List Position) :
    FirstRefused (positions ++ others) fault := by
  induction refused with
  | here refused => exact .here refused _
  | later fits _ ih => exact .later fits ih

theorem append_left {first : List Position} (fits : ∀ position ∈ first, ¬ TooGreat position)
    (refused : FirstRefused positions fault) : FirstRefused (first ++ positions) fault := by
  induction first with
  | nil => exact refused
  | cons position rest ih =>
      rw [List.forall_mem_cons] at fits
      exact .later fits.1 (ih fits.2)

end FirstRefused

/-! ## Conversions -/

/-- The answers of a conversion that goes through the given positions: the first fault among
them, or a value that is right. -/
inductive Converts {α : Type} (positions : List Position) (right : α → Prop) :
    Except Fault α → Prop
  | refused {fault : Fault} (first : FirstRefused positions fault) :
      Converts positions right (.error fault)
  | converted {value : α} (fits : ∀ position ∈ positions, ¬ TooGreat position)
      (good : right value) : Converts positions right (.ok value)

namespace Converts

variable {α β : Type} {positions : List Position} {right : α → Prop} {answer : Except Fault α}

/-- A conversion that is followed by another goes through the positions of both. -/
theorem bind {others : List Position} {right' : β → Prop} {next : α → Except Fault β}
    (one : Converts positions right answer)
    (other : ∀ value, right value → Converts others right' (next value)) :
    Converts (positions ++ others) right' (answer >>= next) := by
  cases one with
  | refused first => exact .refused (first.append_right others)
  | @converted value fits good =>
      have after := other value good
      change Converts _ _ (next value)
      generalize next value = second at after ⊢
      cases after with
      | refused first => exact .refused (first.append_left fits)
      | converted fits' good' => exact .converted (List.forall_mem_append.mpr ⟨fits, fits'⟩) good'

/-- What is made of the value afterwards goes through no positions. -/
theorem map {right' : β → Prop} {make : α → β} (one : Converts positions right answer)
    (other : ∀ value, right value → right' (make value)) :
    Converts positions right' (answer >>= fun value => pure (make value)) := by
  have whole : Converts (positions ++ []) right' (answer >>= fun value => pure (make value)) :=
    one.bind fun value good => .converted (List.forall_mem_nil _) (other value good)
  rwa [List.append_nil] at whole

theorem eq_error_iff (one : Converts positions right answer) (fault : Fault) :
    answer = .error fault ↔ FirstRefused positions fault := by
  cases one with
  | refused first =>
      constructor
      · rintro ⟨⟩
        exact first
      · intro other
        rw [first.unique other]
  | converted fits _ =>
      refine iff_of_false nofun fun other => ?_
      obtain ⟨position, among, great⟩ := other.exists_tooGreat
      exact fits position among great

theorem exists_eq_error_iff (one : Converts positions right answer) :
    (∃ fault, answer = .error fault) ↔ ∃ position ∈ positions, TooGreat position := by
  cases one with
  | refused first => exact iff_of_true ⟨_, rfl⟩ first.exists_tooGreat
  | converted fits _ =>
      refine iff_of_false nofun ?_
      rintro ⟨position, among, great⟩
      exact fits position among great

/-- When nothing is too great, there is a value, and it is right. -/
theorem exists_eq_ok (one : Converts positions right answer)
    (fits : ∀ position ∈ positions, ¬ TooGreat position) :
    ∃ value, answer = .ok value ∧ right value := by
  cases one with
  | refused first =>
      obtain ⟨position, among, great⟩ := first.exists_tooGreat
      exact absurd great (fits position among)
  | converted _ good => exact ⟨_, rfl, good⟩

end Converts

/-- The numbers that are refused are those beyond the last one. -/
private theorem limit_lt_zeroBased_iff (value : Int) :
    limit < zeroBased value ↔ 2147483648 < value := by
  rw [limit, zeroBased]
  omega

private theorem natCast_zeroBased (value : Int) : (zeroBased value : Int) = max (value - 1) 0 := by
  rw [zeroBased]
  omega

theorem converts_point (position : Position) :
    Converts [position] (·.IsOf position) (point position) := by
  rw [point]
  by_cases line : limit < zeroBased position.line
  · rw [if_pos line]
    exact .refused (.here (.line ((limit_lt_zeroBased_iff _).mp line)) [])
  · rw [if_neg line]
    have low := (limit_lt_zeroBased_iff position.line).not.mp line
    by_cases column : limit < zeroBased position.column
    · rw [if_pos column]
      exact .refused (.here (.character (by omega) ((limit_lt_zeroBased_iff _).mp column)) [])
    · rw [if_neg column]
      refine .converted (List.forall_mem_singleton.mpr (not_or.mpr ⟨low, ?_⟩)) ?_
      · exact (limit_lt_zeroBased_iff position.column).not.mp column
      · exact ⟨natCast_zeroBased _, natCast_zeroBased _, Nat.le_of_not_lt line,
          Nat.le_of_not_lt column⟩

theorem converts_range (start : Position) (stop : Option Position) :
    Converts (start :: stop.toList) (·.IsOf start stop) (range start stop) := by
  cases stop with
  | none =>
      exact (converts_point start).map fun first good => ⟨good, nofun, fun _ => rfl⟩
  | some stop =>
      refine (converts_point start).bind fun first good => ?_
      refine (converts_point stop).map fun last good' => ⟨good, ?_, nofun⟩
      rintro position ⟨⟩
      exact good'

/-! ## Notes -/

/-- The position of a note that points into a source. -/
def place? (note : Note) : Option Position := note.position.filter Position.isKnown

/-- Where an editor finds a source: the address of its file when it was read from one, relative
to the given directory, and otherwise the path as it stands. -/
structure Locates (directory : Path) (source : Source) (address : Text) : Prop where
  file : source.onDisk = true →
    address = fileAddress ((Path.ofText source.path).absolute directory).text
  path : source.onDisk = false → address = source.path

theorem locates_address (directory : Path) (source : Source) :
    Locates directory source (address directory source) where
  file onDisk := by rw [address, if_pos onDisk]
  path absent := by rw [address, absent, if_neg Bool.false_ne_true]

/-- Related information that says what a note says: at the position of the note, in the source
that the position lies in. -/
inductive Tells (directory : Path) : Note → Related → Prop
  | intro {text address : Text} {position : Position} {source : Source} {range : Range}
      (known : position.source = some source) (located : Locates directory source address)
      (place : range.IsOf position none) :
      Tells directory ⟨text, some position⟩ ⟨address, range, text⟩

/-- The notes that point into a source become related information one by one. -/
theorem converts_related (directory : Path) (notes : List Note) :
    Converts (notes.filterMap place?) (List.Forall₂ (Tells directory) (notes.filter isLocated))
      ((notes.filterMap (relatedOfNote? directory)).mapM id) := by
  induction notes with
  | nil => exact .converted (List.forall_mem_nil _) .nil
  | cons note rest ih =>
      obtain ⟨text, _ | ⟨offset, line, column, _ | source⟩⟩ := note
      · exact ih
      · exact ih
      · let position : Position := ⟨offset, line, column, some source⟩
        change Converts (position :: rest.filterMap place?)
          (List.Forall₂ (Tells directory) (⟨text, position⟩ :: rest.filter isLocated))
          (List.mapM id ((do return ⟨address directory source, ← range position none, text⟩) ::
            rest.filterMap (relatedOfNote? directory)))
        rw [List.mapM_cons]
        have first : Converts [position] (Tells directory ⟨text, position⟩)
            (do return ⟨address directory source, ← range position none, text⟩) :=
          (converts_range position none).map fun place good =>
            .intro rfl (locates_address directory source) good
        exact first.bind fun entry told => ih.map fun entries good => .cons told good

/-! ## Diagnostics -/

/-- The positions of a diagnostic, in the order in which they are converted. -/
def places (diagnostic : Diagnostic) : List Position :=
  diagnostic.notes.filterMap place? ++ diagnostic.start :: diagnostic.stop.toList

/-- A diagnostic with a position that is too great. That of a note counts if the note points
into a source. -/
inductive Exceeds (diagnostic : Diagnostic) : Prop
  | start (great : TooGreat diagnostic.start)
  | stop {position : Position} (ends : diagnostic.stop = some position) (great : TooGreat position)
  | note {note : Note} {position : Position} {source : Source} (among : note ∈ diagnostic.notes)
      (points : note.position = some position) (known : position.source = some source)
      (great : TooGreat position)

theorem place?_eq_some_iff {note : Note} {position : Position} :
    place? note = some position ↔
      note.position = some position ∧ ∃ source, position.source = some source := by
  rw [place?, Option.filter_eq_some_iff, Position.isKnown, Option.isSome_iff_exists]

theorem exists_tooGreat_places_iff (diagnostic : Diagnostic) :
    (∃ position ∈ places diagnostic, TooGreat position) ↔ Exceeds diagnostic := by
  constructor
  · rintro ⟨position, among, great⟩
    rcases List.mem_append.mp among with noted | placed
    · obtain ⟨note, among, found⟩ := List.mem_filterMap.mp noted
      obtain ⟨points, source, known⟩ := place?_eq_some_iff.mp found
      exact .note among points known great
    · rcases List.mem_cons.mp placed with rfl | ends
      · exact .start great
      · exact .stop (Option.mem_toList.mp ends) great
  · intro exceeds
    cases exceeds with
    | start great => exact ⟨_, List.mem_append_right _ List.mem_cons_self, great⟩
    | stop ends great =>
        refine ⟨_, List.mem_append_right _ (List.mem_cons_of_mem _ ?_), great⟩
        exact Option.mem_toList.mpr ends
    | note among points known great =>
        refine ⟨_, List.mem_append_left _ (List.mem_filterMap.mpr ⟨_, among, ?_⟩), great⟩
        exact place?_eq_some_iff.mpr ⟨points, _, known⟩

/-- A message for an editor that says what a diagnostic says. -/
structure Carries (directory : Path) (diagnostic : Diagnostic) (tool : Text) (message : Message) :
    Prop where
  range : message.range.IsOf diagnostic.start diagnostic.stop
  source : message.source = tool
  /-- Its lines are the message of the diagnostic and those of the notes that point into no
  source. -/
  text : message.text = ['\n'].intercalate
    (diagnostic.message :: (diagnostic.notes.filter (!isLocated ·)).map Note.message)
  /-- The other notes are told one by one. -/
  related : List.Forall₂ (Tells directory) (diagnostic.notes.filter isLocated)
    (message.related.getD [])
  /-- If there are none, neither is related information. -/
  absent : message.related = none ↔ ∀ note ∈ diagnostic.notes, ¬ isLocated note

theorem converts_message (directory : Path) (diagnostic : Diagnostic) (tool : Text) :
    Converts (places diagnostic) (Carries directory diagnostic tool)
      (message directory diagnostic tool) := by
  refine (converts_related directory diagnostic.notes).bind fun related told => ?_
  refine (converts_range diagnostic.start diagnostic.stop).map fun place good => ?_
  refine ⟨good, rfl, rfl, ?_, ?_⟩
  · cases related with
    | nil => exact told
    | cons entry entries => exact told
  · rw [← List.filter_eq_nil_iff, ← List.length_eq_zero_iff, told.length_eq]
    cases related with
    | nil => exact iff_of_true rfl rfl
    | cons entry entries => exact iff_of_false nofun nofun

/-- A diagnostic is converted unless a position in it is too great for an editor: its start, its
end or that of a note that points into a source. The fault is then that of the first such
position, where notes come before the start, the start before the end, and in each position
the line before the column. Otherwise there is a message that says what the diagnostic says. -/
theorem message_carries_or_refuses (directory : Path) (diagnostic : Diagnostic) (tool : Text) :
    ((∃ fault, message directory diagnostic tool = .error fault) ↔ Exceeds diagnostic) ∧
    (∀ fault, message directory diagnostic tool = .error fault ↔
      FirstRefused (places diagnostic) fault) ∧
    (¬ Exceeds diagnostic → ∃ answer, message directory diagnostic tool = .ok answer ∧
      Carries directory diagnostic tool answer) := by
  have conversion := converts_message directory diagnostic tool
  have great := exists_tooGreat_places_iff diagnostic
  refine ⟨conversion.exists_eq_error_iff.trans great, conversion.eq_error_iff, fun within => ?_⟩
  refine conversion.exists_eq_ok fun position among beyond => ?_
  exact within (great.mp ⟨position, among, beyond⟩)

/-- A note that is refused comes before the start, unless it points into no source. -/
example :
    let source : Source := ⟨"f".toList, false, []⟩
    let start : Position := ⟨0, 2147483649, 1, some source⟩
    let note : Note := ⟨[], some ⟨0, 1, 2147483650, some source⟩⟩
    let lost : Note := ⟨[], some ⟨0, 2147483651, 1, none⟩⟩
    message .top ⟨start, none, [], [lost, note]⟩ = .error (.character 2147483649) ∧
      message .top ⟨start, none, [], [lost]⟩ = .error (.line 2147483648) := by
  decide +kernel

end SourceDiagnostics.LanguageServer
