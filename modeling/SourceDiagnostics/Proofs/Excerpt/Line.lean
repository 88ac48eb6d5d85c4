/-
# What a quoted line quotes

A quoted line stands for a line of a text. Nothing of the line is lost but one
carriage return at its end, and the two parts of the quotation meet where the
spaces and tabs at its beginning stop. These conditions leave no choice, so
`ExcerptLine.ofLine` is the only way to satisfy them.

What is quoted of a line depends on the line without that carriage return only.
The same holds for the question whether the line is blank, and therefore for
several lines that are quoted together.
-/

import SourceDiagnostics.Excerpt
import SourceDiagnostics.Proofs.Text.Lines

namespace SourceDiagnostics

namespace Text

/-! ## The carriage return at the end of a line -/

@[simp]
theorem dropCarriageReturn_concat (line : Text) :
    dropCarriageReturn (line ++ ['\r']) = line := by
  simp [dropCarriageReturn]

theorem dropCarriageReturn_of_ne {line : Text} (ne : line.getLast? ≠ some '\r') :
    line.dropCarriageReturn = line :=
  if_neg ne

/-- A line is what is left without its carriage return, or ends in one. -/
theorem eq_dropCarriageReturn_or (line : Text) :
    line = line.dropCarriageReturn ++ ['\r'] ∨
      line = line.dropCarriageReturn ∧ line.getLast? ≠ some '\r' := by
  by_cases last : line.getLast? = some '\r'
  · obtain ⟨body, rfl⟩ := List.getLast?_eq_some_iff.mp last
    exact .inl (by rw [dropCarriageReturn_concat])
  · exact .inr ⟨(dropCarriageReturn_of_ne last).symm, last⟩

private theorem dropCarriageReturn_sublist (line : Text) :
    line.dropCarriageReturn.Sublist line := by
  rw [dropCarriageReturn]
  split
  · exact List.dropLast_sublist line
  · exact List.Sublist.refl line

/-- The only blank lines are the empty one and a lone carriage return. -/
theorem isBlank_iff (line : Text) : line.isBlank = true ↔ line = [] ∨ line = ['\r'] := by
  rw [isBlank, List.isEmpty_iff]
  constructor
  · intro empty
    rcases eq_dropCarriageReturn_or line with whole | ⟨whole, _⟩
    · exact .inr (by rw [whole, empty]; rfl)
    · exact .inl (by rw [whole, empty])
  · rintro (rfl | rfl) <;> rfl

private theorem isBlank_eq_of_dropCarriageReturn_eq {first second : Text}
    (same : first.dropCarriageReturn = second.dropCarriageReturn) :
    first.isBlank = second.isBlank := by
  rw [isBlank, isBlank, same]

end Text

namespace ExcerptLine

/-! ## The quotation of a line -/

/-- A quoted line quotes a line of a text. -/
structure Quotes (quoted : ExcerptLine) (line : Text) : Prop where
  /-- One carriage return at the end of the line is left out, and nothing else. -/
  text : line = quoted.text ++ ['\r'] ∨ line = quoted.text ∧ line.getLast? ≠ some '\r'
  indent : ∀ c ∈ quoted.indent, c = ' ' ∨ c = '\t'
  /-- No longer piece at the beginning is. -/
  longest : ∀ piece, piece <+: quoted.text → (∀ c ∈ piece, c = ' ' ∨ c = '\t') →
    piece.length ≤ quoted.indent.length
  code : ∀ c ∈ quoted.code.head?, c ≠ ' ' ∧ c ≠ '\t'

theorem isIndent_iff (c : Char) : isIndent c = true ↔ c = ' ' ∨ c = '\t' := by
  simp [isIndent]

/-- The two parts of a quoted line are the line without its carriage return. -/
@[simp]
theorem text_ofLine (line : Text) : (ofLine line).text = line.dropCarriageReturn :=
  List.takeWhile_append_dropWhile

theorem quotes_ofLine (line : Text) : (ofLine line).Quotes line where
  text := by
    rw [text_ofLine]
    exact Text.eq_dropCarriageReturn_or line
  indent := by
    intro c mem
    exact (isIndent_iff c).mp (List.mem_takeWhile_imp mem)
  longest := by
    rintro piece ⟨rest, whole⟩ blank
    have indented : ∀ c ∈ piece, isIndent c = true := fun c mem =>
      (isIndent_iff c).mpr (blank c mem)
    rw [text_ofLine] at whole
    rw [ofLine, ← whole, List.takeWhile_append_of_pos indented, List.length_append]
    exact Nat.le_add_right _ _
  code := by
    intro c first
    have stopped := List.head?_dropWhile_not isIndent line.dropCarriageReturn
    rw [Option.mem_def] at first
    simp only [ofLine] at first
    rw [first] at stopped
    rw [← not_or, ← isIndent_iff]
    simpa using stopped

/-- A line has one quotation. -/
theorem quotes_iff (quoted : ExcerptLine) (line : Text) :
    quoted.Quotes line ↔ quoted = ofLine line := by
  refine ⟨fun quotes => ?_, fun same => same ▸ quotes_ofLine line⟩
  obtain ⟨indent, code⟩ := quoted
  have whole : line.dropCarriageReturn = indent ++ code := by
    rcases quotes.text with ended | ⟨same, unended⟩
    · rw [ended, Text.dropCarriageReturn_concat, text]
    · rw [Text.dropCarriageReturn_of_ne unended, same, text]
  have indented : ∀ c ∈ indent, isIndent c = true := fun c mem =>
    (isIndent_iff c).mpr (quotes.indent c mem)
  have stopped : code.takeWhile isIndent = [] ∧ code.dropWhile isIndent = code := by
    cases code with
    | nil => exact ⟨rfl, rfl⟩
    | cons c rest =>
        have head : ¬ isIndent c = true := by
          rw [isIndent_iff, not_or]
          exact quotes.code c rfl
        exact ⟨List.takeWhile_cons_of_neg head, List.dropWhile_cons_of_neg head⟩
  rw [ofLine, whole, List.takeWhile_append_of_pos indented, List.dropWhile_append_of_pos indented,
    stopped.1, stopped.2, List.append_nil]

private theorem ofLine_eq_of_dropCarriageReturn_eq {first second : Text}
    (same : first.dropCarriageReturn = second.dropCarriageReturn) :
    ofLine first = ofLine second := by
  rw [ofLine, ofLine, same]

/-- Of a blank line, nothing is left to quote. -/
theorem ofLine_of_isBlank {line : Text} (blank : line.isBlank = true) : ofLine line = ⟨[], []⟩ := by
  rcases (Text.isBlank_iff line).mp blank with rfl | rfl <;> rfl

theorem newline_not_mem_text_ofLine {line : Text} (unbroken : '\n' ∉ line) :
    '\n' ∉ (ofLine line).text := by
  rw [text_ofLine]
  exact fun mem => unbroken ((Text.dropCarriageReturn_sublist line).mem mem)

end ExcerptLine

namespace Excerpt

/-! ## Several lines together -/

/-- Lines quoted together. A blank line that stands alone is not worth it. -/
def ofLines : List Text → Excerpt
  | [line] => if line.isBlank then [] else [.ofLine line]
  | lines => lines.map .ofLine

theorem ofLines_of_ne_singleton {lines : List Text} (ne : lines.length ≠ 1) :
    ofLines lines = lines.map .ofLine := by
  match lines with
  | [] => rfl
  | [line] => exact absurd rfl ne
  | first :: second :: rest => rfl

/-- Either nothing is quoted or every line is. -/
theorem ofLines_eq_nil_or (lines : List Text) :
    ofLines lines = [] ∨ ofLines lines = lines.map .ofLine := by
  match lines with
  | [] => exact .inl rfl
  | [line] =>
      rw [ofLines, List.map_singleton]
      split
      · exact .inl rfl
      · exact .inr rfl
  | first :: second :: rest => exact .inr rfl

/-- Carriage returns at the ends of lines make no difference. -/
theorem ofLines_congr {first second : List Text}
    (same : first.map Text.dropCarriageReturn = second.map Text.dropCarriageReturn) :
    ofLines first = ofLines second := by
  have quoted : first.map ExcerptLine.ofLine = second.map ExcerptLine.ofLine := by
    have factor : ExcerptLine.ofLine =
        (fun text => ⟨text.takeWhile ExcerptLine.isIndent, text.dropWhile ExcerptLine.isIndent⟩) ∘
          Text.dropCarriageReturn := rfl
    rw [factor, ← List.map_map, ← List.map_map, same]
  have length : first.length = second.length := by
    simpa using congrArg List.length same
  by_cases single : first.length = 1
  · obtain ⟨one, rfl⟩ := List.length_eq_one_iff.mp single
    obtain ⟨other, rfl⟩ := List.length_eq_one_iff.mp (length ▸ single)
    rw [List.map_singleton, List.map_singleton, List.singleton_inj] at same
    rw [ofLines, ofLines, Text.isBlank_eq_of_dropCarriageReturn_eq same,
      ExcerptLine.ofLine_eq_of_dropCarriageReturn_eq same]
  · rw [ofLines_of_ne_singleton single, ofLines_of_ne_singleton (length ▸ single), quoted]

/-- A text whose lines are quoted together is blank as a whole or not at all. -/
theorem ofLines_lines (text : Text) :
    ofLines text.lines =
      if text.isBlank then [] else text.lines.map ExcerptLine.ofLine := by
  by_cases mem : '\n' ∈ text
  · have several : text.lines.length ≠ 1 := by
      have counted : 0 < text.newlines := List.count_pos_iff.mpr mem
      rw [Text.length_lines]
      omega
    have visible : ¬ text.isBlank = true := by
      rw [Text.isBlank_iff]
      rintro (rfl | rfl) <;> simp at mem
    rw [ofLines_of_ne_singleton several, if_neg visible]
  · rw [Text.lines_eq_singleton mem]
    rfl

end Excerpt

end SourceDiagnostics
