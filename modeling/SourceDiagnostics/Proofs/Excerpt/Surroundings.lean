/-
# Excerpts and the lines around them

Whole lines can be put in front of the lines of a source and behind them, changed there
or taken away. What stands between is quoted as before, once its place is told anew: an
offset moves by the characters in front, and a line number by the newlines in front.
This module settles that for ranges, for points and for the positions of offsets.

It needs the two seams to lie between lines. The text in front is empty or ends in a
newline, and the text behind is empty or begins with one, so that no line of the source
is continued on either side. Nothing is asked of the source itself: it may be empty, and
it may end in a newline or a carriage return.
-/

import SourceDiagnostics.Proofs.Excerpt.Point
import SourceDiagnostics.Proofs.Excerpt.Range
import SourceDiagnostics.Proofs.Position

namespace SourceDiagnostics

open Text

/-- The source with text in front of its own and behind it. -/
def Source.surround (source : Source) (before after : Text) : Source :=
  { source with code := before ++ source.code ++ after }

namespace Text

variable {before after : Text}

/-! ## Fronts of the whole text -/

theorem take_surround (before : Text) {text : Text} {offset : Nat}
    (inside : offset ≤ text.length) (after : Text) :
    (before ++ text ++ after).take (before.length + offset) = before ++ text.take offset := by
  rw [List.append_assoc, List.take_length_add_append, List.take_append_of_le_length inside]

private theorem newlines_take_surround (before : Text) {text : Text} {offset : Nat}
    (inside : offset ≤ text.length) (after : Text) :
    newlines ((before ++ text ++ after).take (before.length + offset)) =
      before.newlines + newlines (text.take offset) := by
  rw [take_surround before inside, newlines_append]

/-- A line that begins behind whole lines is not continued by them. -/
theorem lastLine_append (start : LineStart before) (text : Text) :
    lastLine (before ++ text) = lastLine text := by
  obtain ⟨body, split, inner⟩ := exists_eq_append_lastLine text
  have joined : LineStart (before ++ body) := by
    rcases inner with rfl | ⟨front, rfl⟩
    · rwa [List.append_nil]
    · exact .inr ⟨before ++ front, (List.append_assoc _ _ _).symm⟩
  calc
    lastLine (before ++ text) = lastLine (before ++ body ++ lastLine text) := by
      rw [List.append_assoc, ← split]
    _ = lastLine text := lastLine_append_of_lineStart joined (newline_not_mem_lastLine text)

/-! ## Lines of the whole text -/

/-- Behind the lines in front come those of the text, and then those behind it. -/
theorem drop_lines_surround (start : LineStart before) (stop : LineEnd after) (text : Text) :
    (before ++ text ++ after).lines.drop before.newlines = text.lines ++ after.lines.tail := by
  rw [List.append_assoc, drop_lines_of_lineStart start, lines_append_of_lineEnd stop]

/-- The lines of the text have their numbers moved by the newlines in front. -/
theorem getElem?_lines_surround (start : LineStart before) (stop : LineEnd after) {text : Text}
    {count : Nat} (present : count < text.lines.length) :
    (before ++ text ++ after).lines[before.newlines + count]? = text.lines[count]? := by
  rw [← List.getElem?_drop, drop_lines_surround start stop, List.getElem?_append_left present]

end Text

variable {before after : Text}

/-- An offset keeps its column, and its line moves by the newlines in front. -/
theorem Source.position_surround (source : Source) (start : LineStart before) (after : Text)
    {offset : Nat} (inside : offset ≤ source.code.length) :
    ((source.surround before after).position (before.length + offset)).line =
        before.newlines + (source.position offset).line ∧
      ((source.surround before after).position (before.length + offset)).column =
        (source.position offset).column := by
  have within : before.length + offset ≤ (source.surround before after).code.length := by
    simp only [surround, List.length_append]
    omega
  rw [← Int.natCast_add, position_of_le _ within, position_of_le _ inside]
  simp only [surround]
  rw [take_surround before inside, newlines_append, lastLine_append start]
  exact ⟨by omega, rfl⟩

namespace Excerpt

/-- A range of the text touches the same lines. -/
theorem touched_surround (start : LineStart before) (stop : LineEnd after) {code : Text}
    {first last : Nat} (nonempty : first < last) (inside : last ≤ code.length) :
    touched (before ++ code ++ after) (before.length + first) (before.length + last) =
      touched code first last := by
  obtain ⟨ordered, present⟩ := newlines_take_bounds code nonempty
  have previous : before.length + last - 1 = before.length + (last - 1) := by omega
  rw [touched, touched, previous, newlines_take_surround before (by omega),
    newlines_take_surround before (by omega), Nat.add_sub_add_left, ← List.drop_drop,
    drop_lines_surround start stop, List.drop_append_of_le_length (by omega),
    List.take_append_of_le_length (by rw [List.length_drop]; omega)]

/-- A range of the text is quoted as before, also when it reaches one of the seams. -/
theorem ofRange_surround (start : LineStart before) (stop : LineEnd after) (code : Text)
    {first last : Nat} (ordered : first ≤ last) (inside : last ≤ code.length) :
    ofRange (before ++ code ++ after) (before.length + first) (before.length + last) =
      ofRange code first last := by
  rcases Nat.lt_or_eq_of_le ordered with nonempty | rfl
  · have within : before.length + last ≤ (before ++ code ++ after).length := by
      simp only [List.length_append]
      omega
    rw [← Int.natCast_add, ← Int.natCast_add, ofRange_eq_ofLines _ (by omega) within,
      touched_surround start stop nonempty inside, ofRange_eq_ofLines code nonempty inside]
  · rw [ofRange_of_le _ (by omega), ofRange_of_le _ (by omega)]

/-- A line of the text is quoted as before. -/
theorem ofLineNumber_surround (start : LineStart before) (stop : LineEnd after) (code : Text)
    {line : Int} (positive : 1 ≤ line) (present : line ≤ 1 + code.newlines) :
    ofLineNumber (before ++ code ++ after) (before.newlines + line) = ofLineNumber code line := by
  obtain ⟨count, rfl⟩ : ∃ count : Nat, line = count + 1 := ⟨(line - 1).toNat, by omega⟩
  have among : count < code.lines.length := by
    rw [length_lines]
    omega
  rw [← Int.add_assoc, ← Int.natCast_add, ofLineNumber_succ, ofLineNumber_succ,
    getElem?_lines_surround start stop among]

/-- What stands on other lines does not disturb an excerpt. With whole lines put in front
of a source and behind it, its ranges and its lines are quoted as in the source alone, and
its offsets have the same columns, on lines that are moved by the newlines in front. -/
theorem excerpts_surround (source : Source) (start : LineStart before) (stop : LineEnd after) :
    let whole := source.surround before after
    (∀ first last : Nat, first ≤ last → last ≤ source.code.length →
      ofRange whole.code (before.length + first) (before.length + last) =
        ofRange source.code first last) ∧
    (∀ line : Int, 1 ≤ line → line ≤ 1 + source.code.newlines →
      ofLineNumber whole.code (before.newlines + line) = ofLineNumber source.code line) ∧
    ∀ offset : Nat, offset ≤ source.code.length →
      (whole.position (before.length + offset)).line =
          before.newlines + (source.position offset).line ∧
        (whole.position (before.length + offset)).column = (source.position offset).column :=
  ⟨fun _ _ => ofRange_surround start stop source.code,
    fun _ => ofLineNumber_surround start stop source.code,
    fun _ => source.position_surround start after⟩

/-- Between a line that ends in a pair and a blank one, a text is quoted as if it stood
alone, although a carriage return stands at its end and a newline behind it. -/
theorem excerpts_surround_unfinished_pair :
    LineStart "x\r\n".toList ∧ LineEnd "\n\n".toList ∧
      ofRange "x\r\n\tab\nc\r\n\n".toList 4 9 = ofRange "\tab\nc\r".toList 1 6 ∧
      ofLineNumber "x\r\n\tab\nc\r\n\n".toList 3 = ofLineNumber "\tab\nc\r".toList 2 := by
  have start : LineStart "x\r\n".toList := .inr ⟨"x\r".toList, rfl⟩
  have stop : LineEnd "\n\n".toList := .inr ⟨"\n".toList, rfl⟩
  obtain ⟨ranges, lines, _⟩ := excerpts_surround (.ofText "\tab\nc\r".toList) start stop
  exact ⟨start, stop, ranges 1 6 (by decide) (by decide), lines 2 (by decide) (by decide)⟩

end Excerpt

end SourceDiagnostics
