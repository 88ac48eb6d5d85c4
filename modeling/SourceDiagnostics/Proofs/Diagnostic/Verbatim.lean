/-
# What a rendering holds as it is

A rendering quotes. The message of an error, those of its notes and the two parts of
every quoted line stand in it character for character, whatever characters they are.
Color puts its sequences around such a text and never into it: each has a segment of the
layout to itself, and a renderer writes the text of a segment in one piece.
-/

import SourceDiagnostics.Proofs.Diagnostic.Color

namespace SourceDiagnostics

/-- A renderer writes the text of a segment as it is. -/
theorem Renderer.text_infix_segments (renderer : Renderer) {segments : List Segment}
    {segment : Segment} (mem : segment ∈ segments) :
    segment.text <:+: renderer.segments segments := by
  have within : segment.text <:+: renderer.segment segment := by
    rcases renderer.segment_eq_or segment with bare | ⟨opening, _, colored⟩
    · exact bare ▸ List.infix_rfl
    · rw [colored]
      exact List.infix_append _ _ _
  exact within.trans (List.infix_of_mem_flatten (List.mem_map_of_mem mem))

namespace Diagnostic

variable (diagnostic : Diagnostic) (base : Path)

/-- Every message has a segment of the layout to itself. -/
theorem exists_segment_of_mem_messages {message : Text} (mem : message ∈ diagnostic.messages) :
    ∃ segment ∈ diagnostic.layout base, segment.text = message := by
  rw [layout]
  rcases List.mem_cons.mp mem with rfl | later
  · refine ⟨⟨diagnostic.message, .primaryMessage⟩, ?_, rfl⟩
    exact List.mem_append_left _ (List.mem_append_left _ (List.mem_cons_of_mem _ List.mem_cons_self))
  · obtain ⟨note, among, rfl⟩ := List.mem_map.mp later
    refine ⟨⟨note.message, .noteText⟩, ?_, rfl⟩
    refine List.mem_append_left _ (List.mem_append_right _ (List.mem_flatMap_of_mem among ?_))
    exact List.mem_cons_of_mem _ (List.mem_cons_of_mem _ List.mem_cons_self)

/-- The parts of a quoted line have a segment of the layout each, unless they are empty. -/
theorem exists_segment_of_mem_excerpt {line : ExcerptLine} (mem : line ∈ diagnostic.excerpt)
    {part : Text} (among : part = line.indent ∨ part = line.code) (visible : part ≠ []) :
    ∃ segment ∈ diagnostic.layout base, segment.text = part := by
  have quoted : ∃ segment ∈ lineSegments line, segment.text = part := by
    rcases among with rfl | rfl
    · exact ⟨⟨line.indent, .plain⟩, by simp [lineSegments, visible], rfl⟩
    · exact ⟨⟨line.code, .snippetEmphasis⟩, by simp [lineSegments, visible], rfl⟩
  obtain ⟨segment, within, same⟩ := quoted
  refine ⟨segment, List.mem_append_right _ ?_, same⟩
  rw [excerptSegments, if_neg (by simp [List.ne_nil_of_mem mem])]
  refine List.mem_cons_of_mem _ (List.mem_append_left _ ?_)
  exact List.mem_flatMap_of_mem mem within

end Diagnostic

/-- A rendering holds every message of the diagnostic and the parts of every quoted line,
character for character, with color and without. -/
theorem Renderer.infix_render {renderer : Renderer} {directory : Path} {diagnostic : Diagnostic}
    {report : Text} (rendered : renderer.render directory diagnostic = .ok report) :
    (∀ message ∈ diagnostic.messages, message <:+: report) ∧
      ∀ line ∈ diagnostic.excerpt, line.indent <:+: report ∧ line.code <:+: report := by
  obtain rfl := (render_eq_ok_iff.mp rendered).2
  have written {text : Text}
      (laid : ∃ segment ∈ diagnostic.layout (renderer.base.getD directory), segment.text = text) :
      text <:+: renderer.segments (diagnostic.layout (renderer.base.getD directory)) := by
    obtain ⟨segment, mem, rfl⟩ := laid
    exact renderer.text_infix_segments mem
  have part {line : ExcerptLine} (mem : line ∈ diagnostic.excerpt) {part : Text}
      (among : part = line.indent ∨ part = line.code) :
      part <:+: renderer.segments (diagnostic.layout (renderer.base.getD directory)) := by
    by_cases visible : part = []
    · exact visible ▸ List.nil_infix
    · exact written (diagnostic.exists_segment_of_mem_excerpt _ mem among visible)
  exact ⟨fun message mem => written (diagnostic.exists_segment_of_mem_messages _ mem),
    fun line mem => ⟨part mem (.inl rfl), part mem (.inr rfl)⟩⟩

end SourceDiagnostics
