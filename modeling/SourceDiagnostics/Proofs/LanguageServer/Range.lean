/-
# Ranges of computed positions

A position that is computed from an offset has a line and a column within its text, and each
of the two is at most one more than the number of characters. So an editor can be told every
position of a text with fewer than 2³¹ characters, and the longest of them, written on one
line, reaches the bound.

What an editor is told is exact. Its numbers, counted from one again, are the line and the
column, and these say as much as the offset does. A range keeps the order of its ends and
gives back the offsets to which they were moved.
-/

import SourceDiagnostics.Proofs.LanguageServer.Message
import SourceDiagnostics.Proofs.Position.Location

namespace SourceDiagnostics

namespace Source

open Text

variable (source : Source)

private theorem line_position_le (offset : Int) :
    (source.position offset).line ≤ source.code.length + 1 := by
  have counted : newlines (source.code.take (source.clamp offset)) ≤ source.code.length :=
    calc
      _ ≤ newlines source.code := newlines_take_le_newlines _ _
      _ ≤ source.code.length := List.count_le_length
  change (newlines (source.code.take (source.clamp offset)) : Int) + 1 ≤ _
  omega

private theorem column_position_le (offset : Int) :
    (source.position offset).column ≤ source.code.length + 1 := by
  have inside := source.clamp_le offset
  have counted := lineOffset_add_length_lastLine source.code inside
  change ((lastLine (source.code.take (source.clamp offset))).length : Int) + 1 ≤ _
  omega

theorem coordinatesAt_clamp (offset : Int) :
    source.coordinatesAt (source.clamp offset) = source.coordinatesAt offset := by
  rw [coordinatesAt, coordinatesAt, position_clamp]

/-- Offsets have the same line and column only if they are moved to the same one. -/
theorem coordinatesAt_eq_coordinatesAt_iff (first second : Int) :
    source.coordinatesAt first = source.coordinatesAt second ↔
      source.clamp first = source.clamp second := by
  have inside : (source.clamp first : Int) ∈ source.code.offsets :=
    ⟨Int.natCast_nonneg _, Int.ofNat_le.mpr (source.clamp_le first)⟩
  rw [← source.coordinatesAt_clamp first, source.coordinatesAt_eq_iff inside, Int.natCast_inj]

/-- Moving offsets into the text keeps their order, and so do their coordinates. -/
theorem coordinatesAt_le {first second : Int} (ordered : first ≤ second) :
    toLex (source.coordinatesAt first) ≤ toLex (source.coordinatesAt second) := by
  have moved : source.clamp first ≤ source.clamp second := by
    rw [clamp, clamp]
    omega
  rw [← source.coordinatesAt_clamp first, ← source.coordinatesAt_clamp second]
  rcases moved.lt_or_eq with before | same
  · exact (source.coordinatesAt_lt before (source.clamp_le second)).le
  · rw [same]

/-- On a text of a single line, the column counts all characters in front of it. -/
theorem coordinatesAt_of_newline_not_mem (unbroken : '\n' ∉ source.code) {offset : Nat}
    (inside : offset ≤ source.code.length) :
    source.coordinatesAt offset = (1, (offset : Int) + 1) := by
  have free : '\n' ∉ source.code.take offset := fun mem => unbroken (List.mem_of_mem_take mem)
  have whole : lastLine (source.code.take offset) = source.code.take offset :=
    lastLine_append_of_lineStart (.inl rfl) free
  rw [source.coordinatesAt_of_le inside, newlines_eq_zero free, whole, List.length_take,
    min_eq_left inside]
  rfl

end Source

namespace LanguageServer

/-- A position that was computed in a text with fewer than 2³¹ characters. -/
def Computed (position : Position) : Prop :=
  ∃ (source : Source) (offset : Int), source.code.length < 2147483648 ∧
    position = source.position offset

theorem Computed.not_tooGreat {position : Position} (computed : Computed position) :
    ¬ TooGreat position := by
  obtain ⟨source, offset, short, rfl⟩ := computed
  have line := source.line_position_le offset
  have column := source.column_position_le offset
  rw [TooGreat]
  omega

/-- An error that is told by computed positions: at a point or over a range, with notes that
point to computed positions or nowhere. -/
structure ToldByComputed (diagnostic : Diagnostic) : Prop where
  start : Computed diagnostic.start
  stop : ∀ position, diagnostic.stop = some position → Computed position
  notes : ∀ note ∈ diagnostic.notes, ∀ position, note.position = some position → Computed position

theorem ToldByComputed.not_exceeds {diagnostic : Diagnostic} (told : ToldByComputed diagnostic) :
    ¬ Exceeds diagnostic := by
  intro exceeds
  cases exceeds with
  | start great => exact told.start.not_tooGreat great
  | stop ends great => exact (told.stop _ ends).not_tooGreat great
  | note among points _ great => exact (told.notes _ among _ points).not_tooGreat great

namespace Point

/-- The line and the character of a point, counted from one again. -/
def coordinates (point : Point) : Int × Int := (point.line + 1, point.character + 1)

theorem coordinates_injective : Function.Injective coordinates := by
  rintro ⟨line, character⟩ ⟨line', character'⟩ same
  simp only [coordinates, Prod.mk.injEq] at same
  rw [mk.injEq]
  omega

theorem toLex_le_iff (first second : Point) :
    toLex (first.line, first.character) ≤ toLex (second.line, second.character) ↔
      toLex first.coordinates ≤ toLex second.coordinates := by
  simp only [Prod.Lex.toLex_le_toLex, coordinates]
  omega

/-- Of a computed position nothing is lost, since its line and its column are positive. -/
theorem IsOf.coordinates_eq {point : Point} {source : Source} {offset : Int}
    (isOf : point.IsOf (source.position offset)) :
    point.coordinates = source.coordinatesAt offset := by
  obtain ⟨line, character, -, -⟩ := isOf
  have positive : 1 ≤ (source.position offset).line ∧ 1 ≤ (source.position offset).column :=
    ⟨Int.le_add_of_nonneg_left (Int.natCast_nonneg _),
      Int.le_add_of_nonneg_left (Int.natCast_nonneg _)⟩
  apply Prod.ext
  · change (point.line : Int) + 1 = (source.position offset).line
    omega
  · change (point.character : Int) + 1 = (source.position offset).column
    omega

end Point

section

variable {source : Source} (short : source.code.length < 2147483648)
include short

/-- Both ends of a range can be told, and they are told exactly. -/
theorem exists_range_position (first second : Int) :
    ∃ answer, range (source.position first) (some (source.position second)) = .ok answer ∧
      answer.start.coordinates = source.coordinatesAt first ∧
      answer.stop.coordinates = source.coordinatesAt second := by
  have computed (offset : Int) : ¬ TooGreat (source.position offset) :=
    Computed.not_tooGreat ⟨source, offset, short, rfl⟩
  have fits : ∀ position ∈ [source.position first, source.position second],
      ¬ TooGreat position := by
    rw [List.forall_mem_cons, List.forall_mem_singleton]
    exact ⟨computed first, computed second⟩
  obtain ⟨answer, converted, isOf⟩ :=
    (converts_range (source.position first) (some (source.position second))).exists_eq_ok fits
  exact ⟨answer, converted, isOf.start.coordinates_eq, (isOf.stop _ rfl).coordinates_eq⟩

/-- Ranges are the same only if their ends are moved to the same offsets. -/
theorem range_position_eq_iff {first second : Int} {answer : Range}
    (converted : range (source.position first) (some (source.position second)) = .ok answer)
    (first' second' : Int) :
    range (source.position first') (some (source.position second')) = .ok answer ↔
      source.clamp first' = source.clamp first ∧ source.clamp second' = source.clamp second := by
  obtain ⟨answer, told, start, stop⟩ := exists_range_position short first second
  cases converted.symm.trans told
  obtain ⟨answer', told', start', stop'⟩ := exists_range_position short first' second'
  have ends : answer' = answer ↔ answer'.start = answer.start ∧ answer'.stop = answer.stop := by
    cases answer
    cases answer'
    exact Range.mk.injEq .. ▸ Iff.rfl
  rw [told', Except.ok.injEq, ends, ← Point.coordinates_injective.eq_iff,
    ← Point.coordinates_injective.eq_iff, start, stop, start', stop',
    source.coordinatesAt_eq_coordinatesAt_iff, source.coordinatesAt_eq_coordinatesAt_iff]

end

/-- Computed positions of texts with fewer than 2³¹ characters can be told to an editor. A
range of two that are in order is one whose ends are in order, and these are the same exactly
if the offsets are moved to the same one. Counted from one again, the numbers are the lines
and the columns of the positions, so the range says which offsets they were moved to. An
error that is told by such positions, of one text or of several, is converted with all that
it says. -/
theorem computed_positions_are_told :
    (∀ source : Source, source.code.length < 2147483648 →
      ∀ first second : Int, first ≤ second →
        ∃ answer, range (source.position first) (some (source.position second)) = .ok answer ∧
          toLex (answer.start.line, answer.start.character) ≤
            toLex (answer.stop.line, answer.stop.character) ∧
          (answer.start = answer.stop ↔ source.clamp first = source.clamp second) ∧
          ((answer.start.line : Int) + 1 = (source.position first).line ∧
            (answer.start.character : Int) + 1 = (source.position first).column) ∧
          ((answer.stop.line : Int) + 1 = (source.position second).line ∧
            (answer.stop.character : Int) + 1 = (source.position second).column) ∧
          ∀ first' second' : Int,
            range (source.position first') (some (source.position second')) = .ok answer ↔
              source.clamp first' = source.clamp first ∧
                source.clamp second' = source.clamp second) ∧
    ∀ (directory : Path) (tool : Text) (diagnostic : Diagnostic), ToldByComputed diagnostic →
      ∃ answer, message directory diagnostic tool = .ok answer ∧
        Carries directory diagnostic tool answer := by
  constructor
  · intro source short first second ordered
    obtain ⟨answer, told, start, stop⟩ := exists_range_position short first second
    refine ⟨answer, told, ?_, ?_, Prod.mk.inj start, Prod.mk.inj stop,
      range_position_eq_iff short told⟩
    · rw [Point.toLex_le_iff, start, stop]
      exact source.coordinatesAt_le ordered
    · rw [← Point.coordinates_injective.eq_iff, start, stop,
        source.coordinatesAt_eq_coordinatesAt_iff]
  · intro directory tool diagnostic told
    apply (converts_message directory diagnostic tool).exists_eq_ok
    intro position among great
    exact told.not_exceeds ((exists_tooGreat_places_iff diagnostic).mp ⟨position, among, great⟩)

/-- The last position of the longest text, when it is a single line, is the last that an
editor takes. -/
theorem computed_positions_are_told_up_to_limit :
    let source : Source := .ofText (List.replicate 2147483647 'a')
    let other : Source := .ofText "b\n".toList
    let diagnostic : Diagnostic :=
      ⟨source.position 0, some (source.position 2147483647), [], [⟨[], some (other.position 2)⟩]⟩
    range (source.position 0) (some (source.position 2147483647)) =
        .ok ⟨⟨0, 0⟩, ⟨0, 2147483647⟩⟩ ∧
      ∃ answer, message .top diagnostic = .ok answer := by
  intro source other diagnostic
  have long : source.code.length = 2147483647 := List.length_replicate
  have short : source.code.length < 2147483648 := by omega
  have unbroken : '\n' ∉ source.code := fun mem => absurd (List.eq_of_mem_replicate mem) (by decide)
  have first : source.coordinatesAt (0 : Nat) = (1, 1) :=
    source.coordinatesAt_of_newline_not_mem unbroken (by omega)
  have last : source.coordinatesAt (2147483647 : Nat) = (1, 2147483648) :=
    source.coordinatesAt_of_newline_not_mem unbroken (by omega)
  have told : ToldByComputed diagnostic := by
    refine ⟨⟨source, 0, short, rfl⟩, ?_, ?_⟩
    · rintro position ⟨⟩
      exact ⟨source, _, short, rfl⟩
    · intro note among position points
      cases List.mem_singleton.mp among
      cases points
      exact ⟨other, 2, by decide, rfl⟩
  obtain ⟨ranges, diagnostics⟩ := computed_positions_are_told
  obtain ⟨answer, converted, _, _, start, stop, _⟩ := ranges source short 0 2147483647 (by decide)
  obtain ⟨report, made, _⟩ := diagnostics .top _ diagnostic told
  refine ⟨?_, report, made⟩
  have begins : answer.start = ⟨0, 0⟩ :=
    Point.coordinates_injective ((Prod.ext start.1 start.2).trans first)
  have finishes : answer.stop = ⟨0, 2147483647⟩ :=
    Point.coordinates_injective ((Prod.ext stop.1 stop.2).trans last)
  rw [converted, ← begins, ← finishes]

end LanguageServer

end SourceDiagnostics
