/-
# The lines that a range touches

A range is quoted by cutting its region out of the text and splitting that
region into lines. This module relates the region to the lines of the whole
text: it is the stretch of them from the line that holds the first offset to the
line that holds the last one, where the line of an offset is told by counting the
newlines before it.

The region is cut out between lines on both sides, so its lines are among those
of the text. Whether it is suppressed is decided on the region as a whole, and
agrees with deciding it on its lines because a blank region has only one.
-/

import SourceDiagnostics.Proofs.Excerpt.Line

namespace SourceDiagnostics.Excerpt

open Text

/-- The lines of a text from the one that holds the offset `first` to the one
that holds the last offset before `last`. -/
def touched (code : Text) (first last : Nat) : List Text :=
  (code.lines.drop (newlines (code.take first))).take
    (newlines (code.take (last - 1)) - newlines (code.take first) + 1)

/-- The region of a range lies between two cuts, and the newlines of the pieces
are told by the offsets. -/
theorem exists_eq_append_region (code : Text) {first last : Nat} (nonempty : first < last)
    (inside : last ≤ code.length) :
    ∃ before after, code = before ++ region code first last ++ after ∧
      LineStart before ∧ LineEnd after ∧
      newlines (code.take first) = before.newlines ∧
      newlines (code.take (last - 1)) = before.newlines + newlines (region code first last) := by
  obtain ⟨before, headSplit, start⟩ := exists_eq_append_lastLine (code.take first)
  obtain ⟨after, tailSplit, stop⟩ := exists_eq_firstLine_append (code.drop (last - 1))
  let begun := lastLine (code.take first)
  let middle := (code.take (last - 1)).drop first
  let ended := firstLine (code.drop (last - 1))
  -- The range runs from within `begun` to within `ended`; no newline stands in these two.
  have head : code.take (last - 1) = before ++ begun ++ middle := by
    calc
      code.take (last - 1) = (code.take (last - 1)).take first ++ middle :=
        (List.take_append_drop first _).symm
      _ = before ++ begun ++ middle := by
        rw [List.take_take, min_eq_left (by omega), ← headSplit]
  have right : code.take (last - 1 + ended.length) = before ++ begun ++ middle ++ ended := by
    have tail : (code.drop (last - 1)).take ended.length = ended := by
      calc
        _ = (ended ++ after).take ended.length := by rw [← tailSplit]
        _ = ended := List.take_left
    rw [List.take_add, head, tail]
  have left : first - begun.length = before.length := by
    have counted : first = before.length + begun.length := by
      rw [← List.length_append, ← headSplit, List.length_take, min_eq_left (by omega)]
    omega
  have cut : region code first last = begun ++ middle ++ ended := by
    change (code.take (last - 1 + ended.length)).drop (first - begun.length) = _
    rw [right, left, List.append_assoc, List.append_assoc, List.drop_left, List.append_assoc]
  have begunNone : newlines begun = 0 := newlines_eq_zero (newline_not_mem_lastLine _)
  have endedNone : newlines ended = 0 := newlines_eq_zero (newline_not_mem_firstLine _)
  refine ⟨before, after, ?_, start, stop, ?_, ?_⟩
  · calc
      code = code.take (last - 1) ++ code.drop (last - 1) := (List.take_append_drop _ _).symm
      _ = before ++ begun ++ middle ++ (ended ++ after) := by rw [head, ← tailSplit]
      _ = before ++ region code first last ++ after := by
        rw [cut]
        simp only [List.append_assoc]
  · rw [headSplit, newlines_append, begunNone, Nat.add_zero]
  · rw [head, cut]
    simp only [newlines_append, begunNone, endedNone]
    omega

/-- The lines of the region are the touched lines of the text. -/
theorem lines_region (code : Text) {first last : Nat} (nonempty : first < last)
    (inside : last ≤ code.length) :
    (region code first last).lines = touched code first last := by
  obtain ⟨before, after, split, start, stop, left, right⟩ :=
    exists_eq_append_region code nonempty inside
  rw [touched, left, right, Nat.add_sub_cancel_left]
  calc
    (region code first last).lines =
        ((before ++ region code first last ++ after).lines.drop before.newlines).take
          (newlines (region code first last) + 1) := (take_drop_lines start stop _).symm
    _ = _ := by rw [← split]

/-- A range quotes the lines it touches together. -/
theorem ofRange_eq_ofLines (code : Text) {first last : Nat} (nonempty : first < last)
    (inside : last ≤ code.length) :
    ofRange code first last = ofLines (touched code first last) := by
  have start : (max (first : Int) 0).toNat = first := by omega
  have stop : (min (last : Int) code.length).toNat = last := by omega
  rw [← lines_region code nonempty inside, ofLines_lines, ofRange]
  simp only [start, stop, if_pos nonempty]

/-- Offsets outside the text count as its ends. -/
theorem ofRange_clamp (code : Text) (start stop : Int) :
    ofRange code start stop =
      ofRange code (max start 0).toNat (min stop code.length).toNat := by
  have first : (max ((max start 0).toNat : Int) 0).toNat = (max start 0).toNat := by omega
  have last : (min ((min stop code.length).toNat : Int) code.length).toNat =
      (min stop code.length).toNat := by omega
  rw [ofRange, ofRange, first, last]

theorem ofRange_of_le (code : Text) {start stop : Int}
    (empty : min stop code.length ≤ max start 0) : ofRange code start stop = [] := by
  rw [ofRange]
  exact if_neg (by omega)

/-- The last offset of a range lies on no earlier line than the first, and on a
line of the text. -/
theorem newlines_take_bounds (code : Text) {first last : Nat} (nonempty : first < last) :
    newlines (code.take first) ≤ newlines (code.take (last - 1)) ∧
      newlines (code.take (last - 1)) < code.lines.length := by
  refine ⟨newlines_take_le code (by omega), ?_⟩
  rw [length_lines, Nat.lt_succ_iff]
  exact newlines_take_le_newlines code (last - 1)

theorem length_touched (code : Text) {first last : Nat} (nonempty : first < last) :
    (touched code first last).length =
      newlines (code.take (last - 1)) - newlines (code.take first) + 1 := by
  obtain ⟨ordered, present⟩ := newlines_take_bounds code nonempty
  rw [touched, List.length_take, List.length_drop]
  omega

theorem getElem?_touched (code : Text) (first last : Nat) {k : Nat}
    (le : k ≤ newlines (code.take (last - 1)) - newlines (code.take first)) :
    (touched code first last)[k]? = code.lines[newlines (code.take first) + k]? := by
  rw [touched, List.getElem?_take_of_lt (by omega), List.getElem?_drop]

/-- What is quoted of touched lines: nothing of a blank one that stands alone,
and of all others every line. -/
theorem ofLines_touched (code : Text) {first last : Nat} (nonempty : first < last) :
    ofLines (touched code first last) =
      if newlines (code.take first) = newlines (code.take (last - 1)) ∧
          (code.lines[newlines (code.take first)]? = some [] ∨
            code.lines[newlines (code.take first)]? = some ['\r'])
      then [] else (touched code first last).map ExcerptLine.ofLine := by
  have length := length_touched code nonempty
  obtain ⟨ordered, _⟩ := newlines_take_bounds code nonempty
  by_cases same : newlines (code.take first) = newlines (code.take (last - 1))
  · obtain ⟨line, single⟩ := List.length_eq_one_iff.mp (by omega : (touched code first last).length = 1)
    have found : code.lines[newlines (code.take first)]? = some line := by
      have head := getElem?_touched code first last (Nat.zero_le _)
      rw [single] at head
      exact head.symm
    rw [single, ofLines, List.map_singleton, found]
    simp only [same, true_and, Option.some.injEq, Text.isBlank_iff]
  · rw [ofLines_of_ne_singleton (by omega), if_neg (fun both => same both.1)]

/-- Whatever a range quotes are lines of the text. -/
theorem exists_mem_lines_of_mem_ofRange {code : Text} {start stop : Int} {part : ExcerptLine}
    (mem : part ∈ ofRange code start stop) : ∃ line ∈ code.lines, part = .ofLine line := by
  by_cases nonempty : max start 0 < min stop code.length
  · rw [ofRange_clamp, ofRange_eq_ofLines code (by omega) (by omega)] at mem
    rcases ofLines_eq_nil_or (touched code (max start 0).toNat (min stop code.length).toNat)
      with nothing | all
    · rw [nothing] at mem
      exact absurd mem List.not_mem_nil
    · rw [all] at mem
      obtain ⟨line, among, rfl⟩ := List.mem_map.mp mem
      exact ⟨line, List.mem_of_mem_drop (List.mem_of_mem_take among), rfl⟩
  · rw [ofRange_of_le code (by omega)] at mem
    exact absurd mem List.not_mem_nil

/-- A range quotes exactly the lines it touches. Counting newlines before its
first and last offset says which ones these are. Nothing is quoted of an empty
range, nor when the only line is empty or a carriage return; otherwise every
touched line has its quotation, in order, and there are no others. -/
theorem ofRange_quotes_touched (code : Text) (start stop : Int) :
    let first := max start 0
    let last := min stop code.length
    let i := newlines (code.take first.toNat)
    let j := newlines (code.take (last - 1).toNat)
    let lone := i = j ∧ (code.lines[i]? = some [] ∨ code.lines[i]? = some ['\r'])
    let quoted := ofRange code start stop
    (last ≤ first → quoted = []) ∧
    (first < last → i ≤ j ∧ j < code.lines.length ∧
      (lone → quoted = []) ∧
      (¬ lone → quoted.length = j - i + 1 ∧
        ∀ k ≤ j - i, ∃ line part, code.lines[i + k]? = some line ∧ quoted[k]? = some part ∧
          part.Quotes line)) ∧
    ∀ part ∈ quoted, '\n' ∉ part.text := by
  intro first last i j lone quoted
  refine ⟨ofRange_of_le code, ?_, ?_⟩
  · intro nonempty
    have ordered : first.toNat < last.toNat := by omega
    have inside : last.toNat ≤ code.length := by omega
    have before : (last - 1).toNat = last.toNat - 1 := by omega
    have whole : quoted = if lone then [] else
        (touched code first.toNat last.toNat).map ExcerptLine.ofLine := by
      calc
        quoted = ofRange code first.toNat last.toNat := ofRange_clamp code start stop
        _ = ofLines (touched code first.toNat last.toNat) := ofRange_eq_ofLines code ordered inside
        _ = _ := by
          rw [ofLines_touched code ordered, ← before]
    obtain ⟨le, lt⟩ := newlines_take_bounds code ordered
    have length := length_touched code ordered
    rw [← before] at le lt length
    refine ⟨le, lt, ?_, ?_⟩
    · intro alone
      rw [whole, if_pos alone]
    · intro others
      rw [if_neg others] at whole
      constructor
      · rw [whole, List.length_map, length]
      · intro k bound
        have present : i + k < code.lines.length := by omega
        have found : (touched code first.toNat last.toNat)[k]? = code.lines[i + k]? :=
          getElem?_touched code first.toNat last.toNat (by rwa [← before])
        refine ⟨code.lines[i + k], _, List.getElem?_eq_getElem present, ?_,
          ExcerptLine.quotes_ofLine _⟩
        rw [whole, List.getElem?_map, found, List.getElem?_eq_getElem present]
        rfl
  · intro part mem
    obtain ⟨line, among, rfl⟩ := exists_mem_lines_of_mem_ofRange mem
    exact ExcerptLine.newline_not_mem_text_ofLine (newline_not_mem_of_mem_lines among)

end SourceDiagnostics.Excerpt
