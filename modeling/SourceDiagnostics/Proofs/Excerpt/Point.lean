/-
# The line of a point

A point is quoted by skipping the lines before its own. Skipping stops early just
when the text has fewer newlines than there are lines to skip, and what remains
otherwise begins with the wanted line. So a point quotes one of the lines of the
text, chosen by its number, or nothing when there is no such line or it is blank.
-/

import SourceDiagnostics.Proofs.Excerpt.Line

namespace SourceDiagnostics.Excerpt

open Text

theorem skipLines_of_not_mem {text : Text} (unbroken : '\n' ∉ text) (count : Nat) :
    skipLines (count + 1) text = .none := by
  rw [skipLines, List.dropWhile_eq_nil_iff.mpr (bne_of_not_mem unbroken)]

/-- The first line and its newline are skipped together. -/
theorem skipLines_line_cons {line : Text} (unbroken : '\n' ∉ line) (count : Nat) (rest : Text) :
    skipLines (count + 1) (line ++ '\n' :: rest) = skipLines count rest := by
  rw [skipLines, List.dropWhile_append_of_pos (bne_of_not_mem unbroken),
    List.dropWhile_cons_of_neg (by simp)]

/-- Behind the lines that are skipped comes the line of that number. -/
theorem map_firstLine_skipLines (count : Nat) (text : Text) :
    (skipLines count text).map firstLine = text.lines[count]? := by
  induction count generalizing text with
  | zero => rw [skipLines, Option.map_some, ← head?_lines, List.head?_eq_getElem?]
  | succ count ih =>
      cases text using line_induction with
      | single text unbroken =>
          rw [skipLines_of_not_mem unbroken, lines_eq_singleton unbroken]
          rfl
      | more line rest unbroken =>
          rw [skipLines_line_cons unbroken, lines_line_cons unbroken, List.getElem?_cons_succ]
          exact ih rest

/-- A point quotes the line of its number, as if it were a range on it. -/
theorem ofLineNumber_eq_ofLines (code : Text) {line : Int} (positive : 1 ≤ line) :
    ofLineNumber code line = ofLines code.lines[(line - 1).toNat]?.toList := by
  rw [ofLineNumber, if_neg (by omega), ← map_firstLine_skipLines]
  cases skipLines (line - 1).toNat code with
  | none => rfl
  | some rest => rfl

/-- The number of a line, counted from one, is that of the newlines before it
and one more. -/
theorem ofLineNumber_succ (code : Text) (count : Nat) :
    ofLineNumber code (count + 1) = ofLines code.lines[count]?.toList := by
  rw [ofLineNumber_eq_ofLines code (by omega)]
  simp

/-- Whatever a point quotes is a line of the text. -/
theorem exists_mem_lines_of_mem_ofLineNumber {code : Text} {line : Int} {part : ExcerptLine}
    (mem : part ∈ ofLineNumber code line) : ∃ line ∈ code.lines, part = .ofLine line := by
  by_cases positive : 1 ≤ line
  · rw [ofLineNumber_eq_ofLines code positive] at mem
    rcases ofLines_eq_nil_or code.lines[(line - 1).toNat]?.toList with nothing | all
    · rw [nothing] at mem
      exact absurd mem List.not_mem_nil
    · rw [all] at mem
      obtain ⟨found, among, rfl⟩ := List.mem_map.mp mem
      exact ⟨found, List.mem_of_getElem? (Option.mem_toList.mp among), rfl⟩
  · rw [ofLineNumber, if_pos (by omega)] at mem
    exact absurd mem List.not_mem_nil

end SourceDiagnostics.Excerpt
