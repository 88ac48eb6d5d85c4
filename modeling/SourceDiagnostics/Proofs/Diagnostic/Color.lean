/-
# The words of a colored report

Color adds control sequences to a report and nothing else. Whoever deletes all
sequences from a colored report gets what deleting them from the plain report
gives, even if messages, notes, paths or quoted code hold escape characters of
their own or sequences that are not complete.

A segment of the layout is stripped apart from the others, with color as without.
For the sequences that color adds, this holds because each is complete and begins
with an escape character, which puts an end to whatever was begun before. For the
others it holds because no text of a user is followed by one that could complete a
sequence: between two of them, the layout always puts a space, a newline or a mark.
-/

import SourceDiagnostics.Proofs.Diagnostic.Layout
import SourceDiagnostics.Proofs.Excerpt.Agreement
import SourceDiagnostics.Proofs.Text.ControlSequence

namespace SourceDiagnostics

open ControlSequence (lettered lettered_distinct)

namespace Segment

/-- Every segment that may hold an escape character is followed by a text that
interrupts what it leaves unfinished. -/
def Separated : List Segment → Prop
  | [] => True
  | segment :: rest =>
    ('\x1b' ∉ segment.text ∨ lettered.Interrupts (rest.flatMap Segment.text)) ∧ Separated rest

theorem Separated.append {first second : List Segment} (front : Separated first)
    (back : Separated second) (interrupts : lettered.Interrupts (second.flatMap Segment.text)) :
    Separated (first ++ second) := by
  induction first with
  | nil => exact back
  | cons segment rest ih =>
      refine ⟨front.1.imp_right fun between => ?_, ih front.2⟩
      change lettered.Interrupts ((rest ++ second).flatMap Segment.text)
      rw [List.flatMap_append]
      exact between.append interrupts

/-- Pieces of a layout that are separated and begin with an interruption make a
layout of that kind. -/
theorem separated_flatMap {α : Type} {layout : α → List Segment} {items : List α}
    (separated : ∀ item ∈ items, Separated (layout item))
    (interrupts : ∀ item ∈ items, lettered.Interrupts ((layout item).flatMap Segment.text)) :
    Separated (items.flatMap layout) ∧
      lettered.Interrupts ((items.flatMap layout).flatMap Segment.text) := by
  induction items with
  | nil => exact ⟨trivial, lettered.interrupts_nil⟩
  | cons item rest ih =>
      rw [List.forall_mem_cons] at separated interrupts
      obtain ⟨later, between⟩ := ih separated.2 interrupts.2
      rw [List.flatMap_cons, List.flatMap_append]
      exact ⟨separated.1.append later between, interrupts.1.append between⟩

end Segment

namespace Renderer

open Segment (Separated)

private theorem isSequence_reset : lettered.IsSequence reset :=
  (ControlSequence.isSequence_iff lettered_distinct _).mpr (by decide)

theorem isSequence_of_opening {renderer : Renderer} {style : Style} {opening : Text}
    (found : renderer.opening style = some opening) : lettered.IsSequence opening := by
  obtain ⟨color, emphasize, base⟩ := renderer
  rw [ControlSequence.isSequence_iff lettered_distinct]
  cases color with
  | false => exact absurd found nofun
  | true =>
      cases style <;> cases emphasize <;> cases found <;> decide

/-- A text that begins with a sequence interrupts those before it. -/
theorem interrupts_of_isSequence {word : Text} (sequence : lettered.IsSequence word)
    (rest : Text) : lettered.Interrupts (word ++ rest) := by
  cases sequence
  exact ControlSequence.interrupts_cons (by decide) _

/-- What a renderer writes for a segment is its text, or its text between two
sequences. -/
theorem segment_eq_or (renderer : Renderer) (segment : Segment) :
    renderer.segment segment = segment.text ∨
      ∃ opening, lettered.IsSequence opening ∧
        renderer.segment segment = opening ++ segment.text ++ reset := by
  rw [Renderer.segment]
  cases found : renderer.opening segment.style with
  | none => exact .inl rfl
  | some opening =>
      by_cases empty : segment.text.isEmpty = true
      · left
        rw [List.isEmpty_iff] at empty
        simp [empty]
      · right
        exact ⟨opening, isSequence_of_opening found, if_neg empty⟩

/-- Color does not take away an interruption. -/
theorem interrupts_segments (renderer : Renderer) {segments : List Segment}
    (interrupts : lettered.Interrupts (segments.flatMap Segment.text)) :
    lettered.Interrupts (renderer.segments segments) := by
  induction segments with
  | nil => exact interrupts
  | cons segment rest ih =>
      rw [Renderer.segments, List.flatMap_cons]
      rw [List.flatMap_cons] at interrupts
      rcases renderer.segment_eq_or segment with bare | ⟨opening, sequence, colored⟩
      · rw [bare]
        cases text : segment.text with
        | nil =>
            rw [text] at interrupts
            exact ih interrupts
        | cons c tail =>
            rw [text] at interrupts
            exact ControlSequence.interrupts_cons (interrupts c rfl) _
      · rw [colored, List.append_assoc, List.append_assoc]
        exact interrupts_of_isSequence sequence _

/-- Each segment of a layout is stripped apart from the others, whatever the
renderer adds to it. -/
theorem strip_segments (renderer : Renderer) {segments : List Segment}
    (separated : Separated segments) :
    lettered.strip (renderer.segments segments) =
      segments.flatMap fun segment => lettered.strip segment.text := by
  induction segments with
  | nil => exact lettered.strip_nil
  | cons segment rest ih =>
      have front : lettered.strip (renderer.segment segment ++ renderer.segments rest) =
          lettered.strip segment.text ++ lettered.strip (renderer.segments rest) := by
        rcases renderer.segment_eq_or segment with bare | ⟨opening, sequence, colored⟩
        · rw [bare]
          rcases separated.1 with plain | interrupts
          · rw [ControlSequence.strip_append_of_escape_not_mem plain,
              ControlSequence.strip_of_escape_not_mem plain]
          · exact ControlSequence.strip_append lettered_distinct segment.text
              (renderer.interrupts_segments interrupts)
        · calc
            _ = lettered.strip (opening ++ (segment.text ++ (reset ++ renderer.segments rest))) := by
              rw [colored]
              simp only [List.append_assoc]
            _ = lettered.strip (segment.text ++ (reset ++ renderer.segments rest)) :=
              ControlSequence.strip_sequence_append lettered_distinct sequence _
            _ = lettered.strip segment.text ++ lettered.strip (reset ++ renderer.segments rest) :=
              ControlSequence.strip_append lettered_distinct segment.text
                (interrupts_of_isSequence isSequence_reset _)
            _ = _ := by
              rw [ControlSequence.strip_sequence_append lettered_distinct isSequence_reset]
      rw [Renderer.segments, List.flatMap_cons, List.flatMap_cons, ← Renderer.segments, front,
        ih separated.2]

/-- Without color, the segments are written one after the other. -/
theorem segments_of_color_eq_false {renderer : Renderer} (plain : renderer.color = false)
    (segments : List Segment) : renderer.segments segments = segments.flatMap Segment.text := by
  have bare : renderer.segment = Segment.text := by
    funext segment
    have closed : renderer.opening segment.style = none := by
      unfold Renderer.opening
      exact if_neg (by simp [plain])
    rw [Renderer.segment, closed]
  rw [Renderer.segments, bare]

end Renderer

namespace Diagnostic

open Segment (Separated separated_flatMap)

/-! ## The layout is separated -/

/-- Behind a message stands its location or nothing. -/
theorem separated_message {label message : Segment} (plain : '\x1b' ∉ label.text)
    (location : Option Text) : Separated (label :: message :: locationSegments location) := by
  refine ⟨.inl plain, .inr ?_, ?_⟩
  · cases location with
    | none => exact lettered.interrupts_nil
    | some => exact ControlSequence.interrupts_cons (c := ' ') (by decide) _
  · cases location with
    | none => trivial
    | some => exact ⟨.inr lettered.interrupts_nil, trivial⟩

private theorem separated_headSegments (message : Text) (location : Option Text) :
    Separated (headSegments message location) :=
  separated_message (by decide) location

private theorem separated_noteSegments (message : Text) (location : Option Text) :
    Separated (noteSegments message location) :=
  ⟨.inl (by decide), separated_message (by decide) location⟩

/-- A quoted line is indented by spaces and tabs. -/
theorem escape_not_mem_indent {diagnostic : Diagnostic} {line : ExcerptLine}
    (mem : line ∈ diagnostic.excerpt) : '\x1b' ∉ line.indent := by
  obtain ⟨_, _, text, _, rfl⟩ := Excerpt.exists_mem_lines_of_mem_ofPositions mem
  intro escape
  rcases (ExcerptLine.quotes_ofLine text).indent _ escape with same | same <;>
    exact absurd same (by decide)

private theorem separated_lineSegments {line : ExcerptLine} (plain : '\x1b' ∉ line.indent) :
    Separated (lineSegments line) := by
  have code : Separated (if line.code.isEmpty then [] else [⟨line.code, .snippetEmphasis⟩]) := by
    split
    · trivial
    · exact ⟨.inr lettered.interrupts_nil, trivial⟩
  rw [lineSegments]
  split
  · exact ⟨.inl (by decide), .inl (by decide), code⟩
  · exact ⟨.inl (by decide), .inl (by decide), .inl plain, code⟩

private theorem separated_excerptSegments {excerpt : Excerpt}
    (plain : ∀ line ∈ excerpt, '\x1b' ∉ line.indent) :
    Separated (excerptSegments excerpt) ∧
      lettered.Interrupts ((excerptSegments excerpt).flatMap Segment.text) := by
  rw [excerptSegments]
  split
  · exact ⟨trivial, lettered.interrupts_nil⟩
  · have lines : Separated (excerpt.flatMap lineSegments) :=
      (separated_flatMap (fun line mem => separated_lineSegments (plain line mem))
        fun line _ => ControlSequence.interrupts_cons (c := '\n') (by decide) _).1
    have last : Separated [⟨['\n', '\n'], .plain⟩] := ⟨.inl (by decide), trivial⟩
    have whole := lines.append last (ControlSequence.interrupts_cons (c := '\n') (by decide) _)
    exact ⟨⟨.inl (by decide), whole⟩, ControlSequence.interrupts_cons (c := '\n') (by decide) _⟩

/-- In the layout of a diagnostic, no text of a user is followed by one that could
complete what it leaves unfinished. -/
theorem separated_layout (diagnostic : Diagnostic) (base : Path) :
    Separated (diagnostic.layout base) := by
  obtain ⟨excerpt, beforeExcerpt⟩ := separated_excerptSegments
    fun line (mem : line ∈ diagnostic.excerpt) => escape_not_mem_indent mem
  obtain ⟨notes, beforeNotes⟩ := separated_flatMap
    (fun note (_ : note ∈ diagnostic.notes) =>
      separated_noteSegments note.message (note.location? base))
    fun _ _ => ControlSequence.interrupts_cons (c := '\n') (by decide) _
  rw [layout]
  exact ((separated_headSegments _ _).append notes beforeNotes).append excerpt beforeExcerpt

/-- Color never changes the words. Without their control sequences, the colored and
the plain rendering of a diagnostic are the same, whatever characters it holds and
however quoted code is shown, or there is neither, for the same reason; there are both if
the shown locations can be printed. The plain rendering is the text of the layout. -/
theorem strip_render (diagnostic : Diagnostic) (directory : Path) (base : Option Path)
    (emphasize emphasize' : Bool) :
    let colored : Renderer := ⟨true, emphasize, base⟩
    let plain : Renderer := ⟨false, emphasize', base⟩
    (colored.render directory diagnostic).map lettered.strip =
        (plain.render directory diagnostic).map lettered.strip ∧
      ((∃ report, colored.render directory diagnostic = .ok report) ↔ diagnostic.Writable) ∧
      plain.render directory diagnostic =
        (diagnostic.segments (base.getD directory)).map (List.flatMap Segment.text) ∧
      (⟨false, emphasize', none⟩ : Renderer).render directory diagnostic =
        diagnostic.text directory := by
  intro colored plain
  have bare (renderer : Renderer) (off : renderer.color = false) :
      renderer.segments = List.flatMap Segment.text :=
    funext (Renderer.segments_of_color_eq_false off)
  have exist : (∃ report, colored.render directory diagnostic = .ok report) ↔
      diagnostic.Writable := by
    simp only [Renderer.render_eq_ok_iff, exists_and_left, exists_eq, and_true]
  refine ⟨?_, exist, congrArg (Except.map · _) (bare plain rfl),
    congrArg (Except.map · _) (bare _ rfl)⟩
  change ((diagnostic.segments _).map colored.segments).map lettered.strip =
    ((diagnostic.segments _).map plain.segments).map lettered.strip
  cases laid : diagnostic.segments (base.getD directory) with
  | error fault => rfl
  | ok segments =>
      obtain rfl := (segments_eq_ok_iff.mp laid).2
      have separated := diagnostic.separated_layout (base.getD directory)
      exact congrArg Except.ok
        ((colored.strip_segments separated).trans (plain.strip_segments separated).symm)

end Diagnostic

end SourceDiagnostics
