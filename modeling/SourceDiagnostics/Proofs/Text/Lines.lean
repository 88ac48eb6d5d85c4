/-
# Cutting a text between its lines

A text can be cut into pieces without disturbing its lines as long as every cut
lies between two of them: behind a newline, or in front of one. This module
settles what the lines of the pieces then are. They are stretches of the lines
of the whole text, and the newlines of the pieces say which ones.

Two cuts are always at hand. Behind any point of a text its line runs on until
it is ended, and before the point that line was begun.
-/

import SourceDiagnostics.Text
import Mathlib.Data.List.TakeWhile

namespace SourceDiagnostics.Text

/-- A line begins behind the text: it is empty or ends in a newline. -/
def LineStart (before : Text) : Prop := before = [] ∨ ∃ body, before = body ++ ['\n']

/-- A line ends in front of the text: it is empty or begins with a newline. -/
def LineEnd (after : Text) : Prop := after = [] ∨ ∃ rest, after = '\n' :: rest

/-- A scan for a character passes over a text that does not hold it. -/
theorem bne_of_not_mem {text : Text} {mark : Char} (absent : mark ∉ text) :
    ∀ c ∈ text, (c != mark) = true := by
  intro c mem
  rw [bne_iff_ne]
  exact fun same => absent (same ▸ mem)

/-! ## Counting newlines -/

@[simp]
theorem newlines_nil : newlines [] = 0 := rfl

@[simp]
theorem newlines_append (first second : Text) :
    newlines (first ++ second) = newlines first + newlines second :=
  List.count_append

@[simp]
theorem newlines_newline_cons (rest : Text) : newlines ('\n' :: rest) = newlines rest + 1 :=
  List.count_cons_self

theorem newlines_eq_zero {text : Text} (unbroken : '\n' ∉ text) : newlines text = 0 :=
  List.count_eq_zero_of_not_mem unbroken

theorem newlines_line_cons {line : Text} (unbroken : '\n' ∉ line) (rest : Text) :
    newlines (line ++ '\n' :: rest) = newlines rest + 1 := by
  rw [newlines_append, newlines_eq_zero unbroken, newlines_newline_cons, Nat.zero_add]

/-- A longer front part of a text holds no fewer newlines. -/
theorem newlines_take_le (text : Text) {first last : Nat} (le : first ≤ last) :
    newlines (text.take first) ≤ newlines (text.take last) :=
  (List.take_sublist_take_left le).count_le '\n'

theorem newlines_take_le_newlines (text : Text) (offset : Nat) :
    newlines (text.take offset) ≤ newlines text :=
  (List.take_sublist offset text).count_le '\n'

/-! ## The lines of a text -/

@[simp]
theorem lines_nil : lines [] = [[]] := List.splitOn_nil '\n'

theorem lines_eq_singleton {text : Text} (unbroken : '\n' ∉ text) : text.lines = [text] :=
  List.splitOn_eq_singleton unbroken

/-- A newline parts the lines before it from the lines behind it. -/
theorem lines_append_newline (first second : Text) :
    (first ++ '\n' :: second).lines = first.lines ++ second.lines :=
  List.splitOn_append_cons_self first second

theorem lines_newline_cons (rest : Text) : lines ('\n' :: rest) = [] :: rest.lines := by
  simpa using lines_append_newline [] rest

/-- A line before a newline is the first, and the others are those behind it. -/
theorem lines_line_cons {line : Text} (unbroken : '\n' ∉ line) (rest : Text) :
    (line ++ '\n' :: rest).lines = line :: rest.lines :=
  List.splitOn_append_cons_self_of_not_mem unbroken rest

/-- A text is a single line, or a line and its newline before another text. -/
@[elab_as_elim]
theorem line_induction {motive : Text → Prop} (text : Text)
    (single : ∀ line, '\n' ∉ line → motive line)
    (more : ∀ line rest, '\n' ∉ line → motive rest → motive (line ++ '\n' :: rest)) :
    motive text := by
  by_cases mem : '\n' ∈ text
  · obtain ⟨line, rest, split, unbroken⟩ := List.eq_append_cons_of_mem mem
    rw [split]
    exact more line rest unbroken (line_induction rest single more)
  · exact single text mem
termination_by text.length
decreasing_by
  rw [split, List.length_append, List.length_cons]
  omega

/-- There is one line more than there are newlines. -/
theorem length_lines (text : Text) : text.lines.length = text.newlines + 1 := by
  induction text using line_induction with
  | single line unbroken =>
      rw [lines_eq_singleton unbroken, newlines_eq_zero unbroken, List.length_singleton]
  | more line rest unbroken ih =>
      rw [lines_line_cons unbroken, List.length_cons, ih, newlines_line_cons unbroken]

/-- No line holds a newline. -/
theorem newline_not_mem_of_mem_lines {text line : Text} (mem : line ∈ text.lines) :
    '\n' ∉ line := by
  induction text using line_induction with
  | single whole unbroken =>
      rw [lines_eq_singleton unbroken, List.mem_singleton] at mem
      rwa [mem]
  | more first rest unbroken ih =>
      rw [lines_line_cons unbroken, List.mem_cons] at mem
      rcases mem with rfl | mem
      · exact unbroken
      · exact ih mem

/-! ## Lines of the pieces -/

/-- Behind the beginning of a line, the lines go on as if nothing stood before. -/
theorem lines_append_of_lineStart {before : Text} (start : LineStart before) (rest : Text) :
    (before ++ rest).lines = before.lines.dropLast ++ rest.lines := by
  rcases start with rfl | ⟨body, rfl⟩
  · simp
  · rw [List.append_assoc, List.singleton_append, lines_append_newline, lines_append_newline,
      lines_nil, List.dropLast_concat]

/-- Before the end of a line, the lines are as if nothing stood behind. -/
theorem lines_append_of_lineEnd {after : Text} (stop : LineEnd after) (text : Text) :
    (text ++ after).lines = text.lines ++ after.lines.tail := by
  rcases stop with rfl | ⟨rest, rfl⟩
  · simp
  · rw [lines_append_newline, lines_newline_cons, List.tail_cons]

/-- What follows a piece of whole lines has the lines that remain. -/
theorem drop_lines_of_lineStart {before : Text} (start : LineStart before) (rest : Text) :
    (before ++ rest).lines.drop before.newlines = rest.lines := by
  rw [lines_append_of_lineStart start, List.drop_left' (by simp [length_lines])]

/-- A piece that is followed by the end of a line has the first lines. -/
theorem take_lines_of_lineEnd {after : Text} (stop : LineEnd after) (text : Text) :
    (text ++ after).lines.take (text.newlines + 1) = text.lines := by
  rw [lines_append_of_lineEnd stop, List.take_left' (length_lines text)]

/-- The lines of a piece between two cuts are a stretch of the lines of the
whole text. -/
theorem take_drop_lines {before after : Text} (start : LineStart before) (stop : LineEnd after)
    (text : Text) :
    ((before ++ text ++ after).lines.drop before.newlines).take (text.newlines + 1) =
      text.lines := by
  rw [List.append_assoc, drop_lines_of_lineStart start, take_lines_of_lineEnd stop]

/-! ## The line around a point -/

theorem newline_not_mem_firstLine (text : Text) : '\n' ∉ text.firstLine := by
  intro mem
  simpa using List.mem_takeWhile_imp mem

theorem newline_not_mem_lastLine (text : Text) : '\n' ∉ text.lastLine := by
  intro mem
  simpa using List.mem_takeWhile_imp (List.mem_reverse.mp mem)

/-- The first line is followed by the end of a line. -/
theorem exists_eq_firstLine_append (text : Text) :
    ∃ after, text = text.firstLine ++ after ∧ LineEnd after := by
  refine ⟨text.dropWhile (· != '\n'), List.takeWhile_append_dropWhile.symm, ?_⟩
  cases remaining : text.dropWhile (· != '\n') with
  | nil => exact .inl rfl
  | cons c rest =>
      have newline := List.head?_dropWhile_not (· != '\n') text
      rw [remaining] at newline
      exact .inr ⟨rest, by simpa using newline⟩

/-- The last line begins where a line begins. -/
theorem exists_eq_append_lastLine (text : Text) :
    ∃ before, text = before ++ text.lastLine ∧ LineStart before := by
  obtain ⟨after, split, stop⟩ := exists_eq_firstLine_append text.reverse
  have whole : text = after.reverse ++ text.lastLine := by
    rw [lastLine, ← firstLine, ← List.reverse_append, ← split, List.reverse_reverse]
  refine ⟨after.reverse, whole, ?_⟩
  rcases stop with rfl | ⟨rest, rfl⟩
  · exact .inl rfl
  · exact .inr ⟨rest.reverse, List.reverse_cons⟩

/-- Behind the beginning of a line, the last line is what follows. -/
theorem lastLine_append_of_lineStart {before line : Text} (start : LineStart before)
    (unbroken : '\n' ∉ line) : lastLine (before ++ line) = line := by
  have kept := bne_of_not_mem (mt List.mem_reverse.mp unbroken)
  have stopped : before.reverse.takeWhile (· != '\n') = [] := by
    rcases start with rfl | ⟨body, rfl⟩
    · rfl
    · rw [List.reverse_append, List.reverse_singleton, List.singleton_append]
      exact List.takeWhile_cons_of_neg (by simp)
  rw [lastLine, List.reverse_append, List.takeWhile_append_of_pos kept, stopped, List.append_nil,
    List.reverse_reverse]

/-- The first of the lines is the text up to its first newline. -/
theorem head?_lines (text : Text) : text.lines.head? = some text.firstLine := by
  obtain ⟨after, split, stop⟩ := exists_eq_firstLine_append text
  calc
    text.lines.head? = (text.firstLine ++ after).lines.head? := by rw [← split]
    _ = ([text.firstLine] ++ after.lines.tail).head? := by
      rw [lines_append_of_lineEnd stop, lines_eq_singleton (newline_not_mem_firstLine text)]
    _ = some text.firstLine := rfl

/-- The line around an offset is told by the newlines before it. It is what
follows the last of them, up to the next one behind the offset. -/
theorem getElem?_lines_newlines_take (text : Text) (offset : Nat) :
    text.lines[newlines (text.take offset)]? =
      some (lastLine (text.take offset) ++ firstLine (text.drop offset)) := by
  obtain ⟨before, headSplit, start⟩ := exists_eq_append_lastLine (text.take offset)
  obtain ⟨after, tailSplit, stop⟩ := exists_eq_firstLine_append (text.drop offset)
  have counted : newlines (text.take offset) = before.newlines := by
    rw [headSplit, newlines_append, newlines_eq_zero (newline_not_mem_lastLine _), Nat.add_zero]
  have whole : '\n' ∉ lastLine (text.take offset) ++ firstLine (text.drop offset) := by
    rw [List.mem_append, not_or]
    exact ⟨newline_not_mem_lastLine _, newline_not_mem_firstLine _⟩
  have split : text = before ++ (lastLine (text.take offset) ++ firstLine (text.drop offset)) ++
      after := by
    calc
      text = text.take offset ++ text.drop offset := (List.take_append_drop offset text).symm
      _ = (before ++ lastLine (text.take offset)) ++ (firstLine (text.drop offset) ++ after) := by
        rw [← headSplit, ← tailSplit]
      _ = _ := by simp only [List.append_assoc]
  have among := take_drop_lines start stop (lastLine (text.take offset) ++ firstLine (text.drop offset))
  rw [← split, lines_eq_singleton whole, newlines_eq_zero whole] at among
  have head := congrArg List.head? among
  rwa [List.head?_take, List.head?_drop, if_neg (by omega), ← counted] at head

end SourceDiagnostics.Text
