/-
# Paired line ends

A text whose lines end in a newline can be rewritten so that they end in a
carriage return and a newline. The text grows by one character for each newline,
so an offset moves by the number of newlines before it. This module settles what
the rewritten text keeps: every front part is the rewritten front part of the
original, no newline comes or goes, what follows the last newline stays as it
was, and the lines differ by the carriage returns at their ends alone.

The last point needs a text without carriage returns of its own. One that stood
at the end of a line would be left over once the new one is taken away.
-/

import SourceDiagnostics.Proofs.Excerpt.Line

namespace SourceDiagnostics.Text

/-- Every newline becomes the pair of a carriage return and a newline. -/
def pairLineEnds (text : Text) : Text :=
  text.flatMap fun c => if c = '\n' then ['\r', '\n'] else [c]

/-- Where the character at an offset stands once the line ends are paired. -/
def pairedOffset (text : Text) (offset : Int) : Int := offset + newlines (text.take offset.toNat)

@[simp]
theorem pairLineEnds_append (first second : Text) :
    pairLineEnds (first ++ second) = pairLineEnds first ++ pairLineEnds second :=
  List.flatMap_append

@[simp]
theorem pairLineEnds_newline_cons (rest : Text) :
    pairLineEnds ('\n' :: rest) = '\r' :: '\n' :: pairLineEnds rest := rfl

theorem pairLineEnds_of_not_mem {line : Text} (unbroken : '\n' ∉ line) :
    pairLineEnds line = line := by
  induction line with
  | nil => rfl
  | cons c rest ih =>
      rw [List.mem_cons, not_or] at unbroken
      rw [pairLineEnds, List.flatMap_cons, if_neg (Ne.symm unbroken.1), ← pairLineEnds, ih unbroken.2]
      rfl

/-- Pairing the ends of lines, line by line. -/
theorem pairLineEnds_line_cons {line : Text} (unbroken : '\n' ∉ line) (rest : Text) :
    pairLineEnds (line ++ '\n' :: rest) = (line ++ ['\r']) ++ '\n' :: pairLineEnds rest := by
  rw [pairLineEnds_append, pairLineEnds_of_not_mem unbroken, pairLineEnds_newline_cons,
    List.append_assoc, List.singleton_append]

theorem newline_not_mem_append_return {line : Text} (unbroken : '\n' ∉ line) :
    '\n' ∉ line ++ ['\r'] := by
  simp [unbroken]

@[simp]
theorem newlines_pairLineEnds (text : Text) : newlines (pairLineEnds text) = newlines text := by
  induction text using line_induction with
  | single line unbroken => rw [pairLineEnds_of_not_mem unbroken]
  | more line rest unbroken ih =>
      rw [pairLineEnds_line_cons unbroken,
        newlines_line_cons (newline_not_mem_append_return unbroken),
        newlines_line_cons unbroken, ih]

/-- The text grows by its newlines. -/
theorem length_pairLineEnds (text : Text) :
    (pairLineEnds text).length = text.length + newlines text := by
  induction text using line_induction with
  | single line unbroken =>
      rw [pairLineEnds_of_not_mem unbroken, newlines_eq_zero unbroken, Nat.add_zero]
  | more line rest unbroken ih =>
      rw [pairLineEnds_line_cons unbroken, newlines_line_cons unbroken]
      simp only [List.length_append, List.length_cons, List.length_nil, ih]
      omega

/-- A front part of the rewritten text is a rewritten front part. -/
theorem take_pairLineEnds (text : Text) {offset : Nat} (inside : offset ≤ text.length) :
    (pairLineEnds text).take (offset + newlines (text.take offset)) =
      pairLineEnds (text.take offset) := by
  have length : (pairLineEnds (text.take offset)).length =
      offset + newlines (text.take offset) := by
    rw [length_pairLineEnds, List.length_take, min_eq_left inside]
  calc
    _ = (pairLineEnds (text.take offset) ++ pairLineEnds (text.drop offset)).take
        (offset + newlines (text.take offset)) := by
      rw [← pairLineEnds_append, List.take_append_drop]
    _ = _ := List.take_left' length

/-- A cut between two lines stays one. -/
theorem LineStart.pairLineEnds {before : Text} (start : LineStart before) :
    LineStart (pairLineEnds before) := by
  rcases start with rfl | ⟨body, rfl⟩
  · exact .inl rfl
  · refine .inr ⟨Text.pairLineEnds body ++ ['\r'], ?_⟩
    rw [pairLineEnds_append, List.append_assoc]
    rfl

/-- The line that is not ended yet does not change. -/
@[simp]
theorem lastLine_pairLineEnds (text : Text) : lastLine (pairLineEnds text) = lastLine text := by
  obtain ⟨before, split, start⟩ := exists_eq_append_lastLine text
  have unbroken := newline_not_mem_lastLine text
  calc
    lastLine (pairLineEnds text) = lastLine (pairLineEnds before ++ lastLine text) := by
      rw [← pairLineEnds_of_not_mem unbroken, ← pairLineEnds_append, ← split]
    _ = lastLine text := lastLine_append_of_lineStart start.pairLineEnds unbroken

/-- The rewritten text has the same lines but for carriage returns at their
ends. -/
theorem map_dropCarriageReturn_lines_pairLineEnds {text : Text} (plain : '\r' ∉ text) :
    (pairLineEnds text).lines.map dropCarriageReturn = text.lines.map dropCarriageReturn := by
  induction text using line_induction with
  | single line unbroken => rw [pairLineEnds_of_not_mem unbroken]
  | more line rest unbroken ih =>
      rw [List.mem_append, not_or, List.mem_cons, not_or] at plain
      obtain ⟨plainLine, -, plainRest⟩ := plain
      have unended : line.dropCarriageReturn = line :=
        dropCarriageReturn_of_ne fun last => plainLine (List.mem_of_getLast? last)
      rw [pairLineEnds_line_cons unbroken, lines_line_cons (newline_not_mem_append_return unbroken),
        lines_line_cons unbroken, List.map_cons, List.map_cons, dropCarriageReturn_concat, unended,
        ih plainRest]

/-- Without its last character, the rewritten text still has the newlines that the
original has without its own. -/
theorem newlines_dropLast_pairLineEnds (text : Text) :
    newlines (pairLineEnds text).dropLast = newlines text.dropLast := by
  rcases List.eq_nil_or_concat text with rfl | ⟨body, c, rfl⟩
  · rfl
  · rw [List.concat_eq_append, List.dropLast_concat, pairLineEnds_append]
    by_cases newline : c = '\n'
    · subst newline
      rw [show pairLineEnds ['\n'] = ['\r'] ++ ['\n'] from rfl, ← List.append_assoc,
        List.dropLast_concat, newlines_append, newlines_pairLineEnds]
      rfl
    · have single : pairLineEnds [c] = [c] :=
        pairLineEnds_of_not_mem (by simpa using Ne.symm newline)
      rw [single, List.dropLast_concat, newlines_pairLineEnds]

end SourceDiagnostics.Text
