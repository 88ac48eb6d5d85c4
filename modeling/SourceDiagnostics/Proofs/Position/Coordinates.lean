/-
# Offsets and coordinates

The line and the column of a position say as much as its offset. The offsets of a
text, from its start up to its end, stand in order for the pairs of a line and a
column on it, where a line has one column more than it has characters: the one
behind its last character, on which its newline or the end of the text stands.

The way back counts. In front of a line stand all characters of the lines before
it, and one newline for each of these; in front of a column stand the columns
before it.
-/

import Mathlib.Algebra.GroupWithZero.Nat
import Mathlib.Data.Int.ConditionallyCompleteOrder
import Mathlib.Data.Prod.Lex
import Mathlib.Data.Set.Function
import Mathlib.Order.ConditionallyCompleteLattice.Basic
import SourceDiagnostics.Proofs.Position

namespace SourceDiagnostics

namespace Text

/-- How many characters stand in front of a line, where `count` lines come first. -/
def lineOffset (text : Text) (count : Nat) : Nat :=
  ((text.lines.take count).map fun line => line.length + 1).sum

/-- The offsets of a text, from its start up to its end. -/
def offsets (text : Text) : Set Int := Set.Icc 0 text.length

/-- The coordinates of a text: the number of a line and a column on it, both counted
from one. -/
def coordinates (text : Text) : Set (Int × Int) :=
  {place | 1 ≤ place.1 ∧ place.1 ≤ text.lines.length ∧ 1 ≤ place.2 ∧
    ∃ line, text.lines[(place.1 - 1).toNat]? = some line ∧ place.2 ≤ line.length + 1}

/-- The offset of a place that is told by its coordinates. -/
def offsetAt (text : Text) (place : Int × Int) : Int :=
  text.lineOffset (place.1 - 1).toNat + (place.2 - 1)

/-! ## Lines and the characters in front of them -/

/-- All lines with a newline behind each make up one character more than the text. -/
theorem sum_map_length_lines (text : Text) :
    (text.lines.map fun line => line.length + 1).sum = text.length + 1 := by
  induction text using line_induction with
  | single line unbroken =>
      rw [lines_eq_singleton unbroken, List.map_singleton, List.sum_singleton]
  | more line rest unbroken ih =>
      rw [lines_line_cons unbroken, List.map_cons, List.sum_cons, ih, List.length_append,
        List.length_cons]
      omega

/-- Every line of a text lies between two cuts. -/
private theorem exists_eq_append_line {text line : Text} {count : Nat}
    (found : text.lines[count]? = some line) :
    ∃ before after, text = before ++ line ++ after ∧ LineStart before ∧ LineEnd after ∧
      newlines before = count := by
  induction text using line_induction generalizing count with
  | single whole unbroken =>
      rw [lines_eq_singleton unbroken, List.getElem?_singleton] at found
      split at found
      · rename_i first
        obtain rfl := Option.some.inj found
        exact ⟨[], [], by simp, .inl rfl, .inl rfl, first.symm⟩
      · exact absurd found nofun
  | more head rest unbroken ih =>
      rw [lines_line_cons unbroken] at found
      cases count with
      | zero =>
          obtain rfl := Option.some.inj found
          exact ⟨[], '\n' :: rest, rfl, .inl rfl, .inr ⟨rest, rfl⟩, rfl⟩
      | succ count =>
          obtain ⟨before, after, split, start, stop, counted⟩ := ih found
          refine ⟨head ++ '\n' :: before, after, ?_, ?_, stop, ?_⟩
          · rw [split]
            simp only [List.append_assoc, List.cons_append]
          · rcases start with rfl | ⟨body, rfl⟩
            · exact .inr ⟨head, rfl⟩
            · exact .inr ⟨head ++ '\n' :: body, by simp⟩
          · rw [newlines_line_cons unbroken, counted]

/-- What stands between the beginning of the text and that of a line is counted by
the lines in front of it. -/
theorem lineOffset_newlines {before : Text} (start : LineStart before) (rest : Text) :
    (before ++ rest).lineOffset before.newlines = before.length := by
  have front : (before ++ rest).lines.take before.newlines = before.lines.dropLast := by
    rw [lines_append_of_lineStart start]
    exact List.take_left' (by simp [length_lines])
  rw [lineOffset, front]
  rcases start with rfl | ⟨body, rfl⟩
  · rfl
  · rw [lines_append_newline, lines_nil, List.dropLast_concat, sum_map_length_lines,
      List.length_append, List.length_singleton]

/-- An offset is made up of what stands in front of its line and in front of it on
the line. -/
theorem lineOffset_add_length_lastLine (text : Text) {offset : Nat}
    (inside : offset ≤ text.length) :
    text.lineOffset (newlines (text.take offset)) + (lastLine (text.take offset)).length =
      offset := by
  obtain ⟨before, split, start⟩ := exists_eq_append_lastLine (text.take offset)
  have counted : newlines (text.take offset) = before.newlines := by
    rw [split, newlines_append, newlines_eq_zero (newline_not_mem_lastLine _), Nat.add_zero]
  have front : text.lineOffset before.newlines = before.length := by
    have whole : text = before ++ (lastLine (text.take offset) ++ text.drop offset) := by
      rw [← List.append_assoc, ← split, List.take_append_drop]
    rw [whole]
    exact lineOffset_newlines start _
  calc
    _ = before.length + (lastLine (text.take offset)).length := by rw [counted, front]
    _ = (text.take offset).length := by rw [← List.length_append, ← split]
    _ = offset := by rw [List.length_take, min_eq_left inside]

/-- The offset that lies a given number of characters behind the beginning of a line
is one of the text, and has that line and that many characters before it there. -/
theorem take_lineOffset_add {text line : Text} {count : Nat}
    (found : text.lines[count]? = some line) {column : Nat} (within : column ≤ line.length) :
    text.lineOffset count + column ≤ text.length ∧
      newlines (text.take (text.lineOffset count + column)) = count ∧
      (lastLine (text.take (text.lineOffset count + column))).length = column := by
  obtain ⟨before, after, split, start, _, rfl⟩ := exists_eq_append_line found
  have unbroken : '\n' ∉ line.take column := fun mem =>
    newline_not_mem_of_mem_lines (List.mem_of_getElem? found) (List.mem_of_mem_take mem)
  have front : text.lineOffset before.newlines = before.length := by
    rw [split, List.append_assoc]
    exact lineOffset_newlines start _
  have head : text.take (before.length + column) = before ++ line.take column := by
    rw [split, List.append_assoc, List.take_length_add_append, List.take_append_of_le_length within]
  rw [front, head]
  refine ⟨?_, ?_, ?_⟩
  · rw [split, List.length_append, List.length_append]
    omega
  · rw [newlines_append, newlines_eq_zero unbroken, Nat.add_zero]
  · rw [lastLine_append_of_lineStart start unbroken, List.length_take, min_eq_left within]

end Text

namespace Source

open Text

variable (source : Source)

/-- The line and the column at an offset. -/
def coordinatesAt (offset : Int) : Int × Int :=
  ((source.position offset).line, (source.position offset).column)

theorem coordinatesAt_of_le {offset : Nat} (inside : offset ≤ source.code.length) :
    source.coordinatesAt offset =
      ((newlines (source.code.take offset) : Int) + 1,
        ((lastLine (source.code.take offset)).length : Int) + 1) := by
  rw [coordinatesAt, source.position_of_le inside]

/-- Offsets inside the text have coordinates of the text. -/
theorem coordinatesAt_mem {offset : Nat} (inside : offset ≤ source.code.length) :
    source.coordinatesAt offset ∈ source.code.coordinates := by
  let column := (lastLine (source.code.take offset)).length
  let count := newlines (source.code.take offset)
  let line := lastLine (source.code.take offset) ++ firstLine (source.code.drop offset)
  have found : source.code.lines[count]? = some line := getElem?_lines_newlines_take _ offset
  have present := (List.getElem?_eq_some_iff.mp found).1
  have within : column ≤ line.length := by
    rw [List.length_append]
    exact Nat.le_add_right _ _
  rw [coordinatesAt_of_le source inside]
  change (1 : Int) ≤ count + 1 ∧ (count + 1 : Int) ≤ source.code.lines.length ∧
    (1 : Int) ≤ column + 1 ∧ ∃ line, source.code.lines[((count + 1 : Int) - 1).toNat]? = some line ∧
      (column + 1 : Int) ≤ line.length + 1
  rw [Int.add_sub_cancel, Int.toNat_natCast]
  exact ⟨by omega, by omega, by omega, line, found, by omega⟩

/-- The offset can be read off its coordinates. -/
theorem offsetAt_coordinatesAt {offset : Nat} (inside : offset ≤ source.code.length) :
    source.code.offsetAt (source.coordinatesAt offset) = offset := by
  rw [coordinatesAt_of_le source inside, offsetAt, Int.add_sub_cancel, Int.add_sub_cancel,
    Int.toNat_natCast, ← Int.natCast_add, lineOffset_add_length_lastLine source.code inside]

/-- Coordinates of the text are those of an offset inside it. -/
theorem coordinatesAt_offsetAt {place : Int × Int} (mem : place ∈ source.code.coordinates) :
    source.code.offsetAt place ∈ source.code.offsets ∧
      source.coordinatesAt (source.code.offsetAt place) = place := by
  obtain ⟨line, column⟩ := place
  obtain ⟨first, _, left, text, found, right⟩ := mem
  obtain ⟨count, rfl⟩ : ∃ count : Nat, line = count + 1 := ⟨(line - 1).toNat, by omega⟩
  obtain ⟨before, rfl⟩ : ∃ before : Nat, column = before + 1 := ⟨(column - 1).toNat, by omega⟩
  simp only [Int.add_sub_cancel, Int.toNat_natCast] at found
  have within : before ≤ text.length := by omega
  obtain ⟨inside, counted, behind⟩ := take_lineOffset_add found within
  have offset : source.code.offsetAt (count + 1, before + 1) =
      (source.code.lineOffset count + before : Nat) := by
    simp [offsetAt]
  rw [offset]
  refine ⟨⟨Int.natCast_nonneg _, Int.ofNat_le.mpr inside⟩, ?_⟩
  rw [coordinatesAt_of_le source inside, counted, behind]

/-- Later offsets have later coordinates: a later line, or a later column on the
same line. -/
theorem coordinatesAt_lt {first second : Nat} (before : first < second)
    (inside : second ≤ source.code.length) :
    toLex (source.coordinatesAt first) < toLex (source.coordinatesAt second) := by
  have one := lineOffset_add_length_lastLine source.code (show first ≤ source.code.length by omega)
  have other := lineOffset_add_length_lastLine source.code inside
  rw [coordinatesAt_of_le source (by omega), coordinatesAt_of_le source inside,
    Prod.Lex.toLex_lt_toLex]
  rcases (newlines_take_le source.code (Nat.le_of_lt before)).lt_or_eq with less | same
  · exact .inl (by simpa using less)
  · rw [same] at one
    refine .inr ⟨by simp [same], ?_⟩
    simp only
    omega

/-- Offsets and coordinates are the same thing, in the same order. On the offsets from
the start of the text up to its end, line and column together grow strictly, reach all
coordinates of the text and no other pairs, and give the offset back. Offsets outside
have the position of the nearer end; a position holds the offset at which it was found
and the source. -/
theorem position_orderIso :
    StrictMonoOn (fun offset => toLex (source.coordinatesAt offset)) source.code.offsets ∧
    Set.BijOn source.coordinatesAt source.code.offsets source.code.coordinates ∧
    Set.InvOn source.code.offsetAt source.coordinatesAt source.code.offsets
      source.code.coordinates ∧
    ∀ offset : Int,
      source.position offset = source.position (max 0 (min offset source.code.length)) ∧
      (source.position offset).offset = max 0 (min offset source.code.length) ∧
      (source.position offset).source = some source := by
  have whole : ∀ offset ∈ source.code.offsets, ∃ n : Nat, offset = n ∧ n ≤ source.code.length := by
    rintro offset ⟨low, high⟩
    exact ⟨offset.toNat, by omega, by omega⟩
  have maps : Set.MapsTo source.coordinatesAt source.code.offsets source.code.coordinates := by
    intro offset mem
    obtain ⟨n, rfl, within⟩ := whole offset mem
    exact source.coordinatesAt_mem within
  have inverse : Set.InvOn source.code.offsetAt source.coordinatesAt source.code.offsets
      source.code.coordinates := by
    refine ⟨?_, fun place mem => (source.coordinatesAt_offsetAt mem).2⟩
    intro offset mem
    obtain ⟨n, rfl, within⟩ := whole offset mem
    exact source.offsetAt_coordinatesAt within
  have clamped (offset : Int) : (source.clamp offset : Int) = max 0 (min offset source.code.length) := by
    rw [clamp]
    omega
  refine ⟨?_, inverse.bijOn maps fun place mem => (source.coordinatesAt_offsetAt mem).1, inverse, ?_⟩
  · intro first memFirst second memSecond before
    obtain ⟨m, rfl, _⟩ := whole first memFirst
    obtain ⟨n, rfl, within⟩ := whole second memSecond
    exact source.coordinatesAt_lt (by omega) within
  · intro offset
    rw [← clamped]
    exact ⟨(source.position_clamp offset).symm, rfl, rfl⟩

end Source

end SourceDiagnostics
