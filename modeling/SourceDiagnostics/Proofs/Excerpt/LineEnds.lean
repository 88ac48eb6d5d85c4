/-
# Places in a text with paired line ends

When the line ends of a source are paired, every offset has a counterpart, also
one outside the text. The position at the counterpart has the same line and the
same column, and what is quoted of the source by line number or by offsets is the
same, because the carriage returns stand where they are not quoted.

A range that ends on a newline is the delicate case. Its last character is then
the newline of a pair, and the carriage return before it belongs to the range but
to no other line.
-/

import SourceDiagnostics.Proofs.Excerpt.Agreement
import SourceDiagnostics.Proofs.Text.LineEnds

namespace SourceDiagnostics

open Text

namespace Source

/-- The source with its line ends paired. -/
def pairLineEnds (source : Source) : Source :=
  { source with code := source.code.pairLineEnds }

variable (source : Source)

/-- Moving an offset into the text and finding its counterpart can be done in
either order. -/
theorem clamp_pairLineEnds (offset : Int) :
    source.pairLineEnds.clamp (pairedOffset source.code offset) =
      source.clamp offset + newlines (source.code.take (source.clamp offset)) := by
  have most := newlines_take_le_newlines source.code offset.toNat
  have length := length_pairLineEnds source.code
  rw [clamp, clamp, pairedOffset]
  change (min _ ((source.code.pairLineEnds.length : Nat) : Int)).toNat = _
  rw [length]
  rcases Int.lt_or_le offset 0 with negative | positive
  · have zero : offset.toNat = 0 := by omega
    have first : (min offset (source.code.length : Int)).toNat = 0 := by omega
    rw [zero, first, List.take_zero, newlines_nil]
    omega
  · rcases Int.le_total offset source.code.length with within | beyond
    · have first : (min offset (source.code.length : Int)).toNat = offset.toNat := by omega
      rw [first]
      omega
    · have last : (min offset (source.code.length : Int)).toNat = source.code.length := by omega
      rw [last, List.take_of_length_le (show source.code.length ≤ offset.toNat by omega),
        List.take_length]
      omega

/-- What stands before a counterpart is what stands before the offset, with its
line ends paired. -/
theorem take_clamp_pairLineEnds (offset : Int) :
    source.code.pairLineEnds.take (source.pairLineEnds.clamp (pairedOffset source.code offset)) =
      Text.pairLineEnds (source.code.take (source.clamp offset)) := by
  rw [clamp_pairLineEnds, take_pairLineEnds _ (source.clamp_le offset)]

/-- Counterparts have the same line and column. -/
theorem position_pairLineEnds (offset : Int) :
    (source.pairLineEnds.position (pairedOffset source.code offset)).line =
        (source.position offset).line ∧
      (source.pairLineEnds.position (pairedOffset source.code offset)).column =
        (source.position offset).column := by
  have before := take_clamp_pairLineEnds source offset
  constructor
  · change ((newlines (source.code.pairLineEnds.take _) : Nat) : Int) + 1 = _
    rw [before, newlines_pairLineEnds]
    rfl
  · change (((lastLine (source.code.pairLineEnds.take _)).length : Nat) : Int) + 1 = _
    rw [before, lastLine_pairLineEnds]
    rfl

end Source

namespace Excerpt

/-- A point quotes the same by its line number. -/
theorem ofLineNumber_pairLineEnds {code : Text} (plain : '\r' ∉ code) (line : Int) :
    ofLineNumber code.pairLineEnds line = ofLineNumber code line := by
  by_cases positive : 1 ≤ line
  · rw [ofLineNumber_eq_ofLines _ positive, ofLineNumber_eq_ofLines _ positive]
    apply ofLines_congr
    rw [← Option.toList_map, ← Option.toList_map, ← List.getElem?_map, ← List.getElem?_map,
      map_dropCarriageReturn_lines_pairLineEnds plain]
  · rw [ofLineNumber, ofLineNumber, if_pos (by omega), if_pos (by omega)]

/-- The last offset before the counterpart of an offset lies on the same line as
the last offset before that one. -/
theorem newlines_take_pred_pairLineEnds (code : Text) {last : Nat} (inside : last ≤ code.length) :
    newlines (code.pairLineEnds.take (last + newlines (code.take last) - 1)) =
      newlines (code.take (last - 1)) := by
  have short (text : Text) {length : Nat} (le : length ≤ text.length) :
      text.take (length - 1) = (text.take length).dropLast := by
    rw [List.dropLast_eq_take, List.take_take, List.length_take, min_eq_left le,
      min_eq_left (Nat.sub_le length 1)]
  have fits : last + newlines (code.take last) ≤ code.pairLineEnds.length := by
    have most := newlines_take_le_newlines code last
    rw [length_pairLineEnds]
    omega
  rw [short _ fits, short _ inside, take_pairLineEnds code inside, newlines_dropLast_pairLineEnds]

/-- A range touches the same lines, but for carriage returns at their ends. -/
theorem touched_pairLineEnds {code : Text} (plain : '\r' ∉ code) {first last : Nat}
    (nonempty : first < last) (inside : last ≤ code.length) :
    (touched code.pairLineEnds (first + newlines (code.take first))
        (last + newlines (code.take last))).map dropCarriageReturn =
      (touched code first last).map dropCarriageReturn := by
  rw [touched, touched, take_pairLineEnds code (by omega), newlines_pairLineEnds,
    newlines_take_pred_pairLineEnds code inside, List.map_take, List.map_drop, List.map_take,
    List.map_drop, map_dropCarriageReturn_lines_pairLineEnds plain]

/-- A range quotes the same by the counterparts of its offsets. -/
theorem ofRange_pairLineEnds (source : Source) (plain : '\r' ∉ source.code) (start stop : Int) :
    ofRange source.code.pairLineEnds (pairedOffset source.code start)
        (pairedOffset source.code stop) = ofRange source.code start stop := by
  have paired := ofRange_clamp_clamp source.pairLineEnds (pairedOffset source.code start)
    (pairedOffset source.code stop)
  rw [Source.clamp_pairLineEnds, Source.clamp_pairLineEnds] at paired
  rw [← ofRange_clamp_clamp source]
  refine paired.symm.trans ?_
  change ofRange source.code.pairLineEnds _ _ = _
  have inside := source.clamp_le stop
  generalize source.clamp start = first at *
  generalize source.clamp stop = last at *
  by_cases nonempty : first < last
  · have fewer := newlines_take_le source.code (Nat.le_of_lt nonempty)
    have most := newlines_take_le_newlines source.code last
    have length := length_pairLineEnds source.code
    rw [ofRange_eq_ofLines _ (by omega) (by omega), ofRange_eq_ofLines _ nonempty inside]
    exact ofLines_congr (touched_pairLineEnds plain nonempty inside)
  · have fewer := newlines_take_le source.code (Nat.le_of_not_lt nonempty)
    rw [ofRange_of_le _ (by omega), ofRange_of_le _ (by omega)]

end Excerpt

end SourceDiagnostics
