/-
# Three views of a place

A place in a text is told by offsets, by a line number, or by the line and column
of a position. This module settles that quoting by any of them shows the same
lines. Positions computed from two offsets quote what the offsets quote. A range
quotes, one after the other, what points on its lines quote; the only difference
is that a blank line, of which a point shows nothing, is shown as an empty one
between others. A point quotes what the range of its single character quotes, and
the column says where in the quoted line that character stands.

Line ends are where a character may be missing from the quoted line: the newline
itself is never quoted, and neither is a carriage return at the end of a line.
-/

import SourceDiagnostics.Proofs.Excerpt.Point
import SourceDiagnostics.Proofs.Excerpt.Range
import SourceDiagnostics.Proofs.Position

namespace SourceDiagnostics

open Text

/-- What stands before the end of a line is not touched by dropping its carriage
return. -/
theorem Text.dropCarriageReturn_append {rest : Text} (ne : rest ≠ []) (front : Text) :
    dropCarriageReturn (front ++ rest) = front ++ dropCarriageReturn rest := by
  have last : (front ++ rest).getLast? = rest.getLast? := by
    rw [List.getLast?_append, List.getLast?_eq_some_getLast ne, Option.some_or]
  rw [dropCarriageReturn, dropCarriageReturn, last]
  split
  · exact List.dropLast_append_of_ne_nil ne
  · rfl

namespace Excerpt

/-- A range quotes the same when its ends are moved into the text first. -/
theorem ofRange_clamp_clamp (source : Source) (start stop : Int) :
    ofRange source.code (source.clamp start) (source.clamp stop) =
      ofRange source.code start stop := by
  by_cases nonempty : max start 0 < min stop source.code.length
  · have first : source.clamp start = (max start 0).toNat := by
      rw [Source.clamp]
      omega
    have last : source.clamp stop = (min stop source.code.length).toNat := rfl
    rw [ofRange_clamp source.code start stop, first, last]
  · have empty : min (source.clamp stop : Int) source.code.length ≤
        max (source.clamp start : Int) 0 := by
      rw [Source.clamp, Source.clamp]
      omega
    rw [ofRange_of_le source.code empty, ofRange_of_le source.code (by omega)]

/-- Two positions computed from offsets quote the range between these. -/
theorem ofPositions_position (source : Source) (start stop : Int) :
    ofPositions (source.position start) (some (source.position stop)) =
      ofRange source.code start stop :=
  ofRange_clamp_clamp source start stop

/-- Whatever a place quotes is a line of the source in which it starts. -/
theorem exists_mem_lines_of_mem_ofPositions {start : Position} {stop : Option Position}
    {part : ExcerptLine} (mem : part ∈ ofPositions start stop) :
    ∃ source, start.source = some source ∧ ∃ line ∈ source.code.lines, part = .ofLine line := by
  rw [ofPositions] at mem
  cases known : start.source with
  | none =>
      rw [known] at mem
      exact absurd mem List.not_mem_nil
  | some source =>
      rw [known] at mem
      refine ⟨source, rfl, ?_⟩
      cases stop with
      | none => exact exists_mem_lines_of_mem_ofLineNumber mem
      | some stop => exact exists_mem_lines_of_mem_ofRange mem

/-- Alone, a line is quoted as it is among others, or it is blank and left out. -/
theorem ofLines_singleton_or (line : Text) :
    ofLines [line] = [ExcerptLine.ofLine line] ∨
      ofLines [line] = [] ∧ ExcerptLine.ofLine line = ⟨[], []⟩ := by
  rw [ofLines]
  by_cases blank : line.isBlank = true
  · exact .inr ⟨if_pos blank, ExcerptLine.ofLine_of_isBlank blank⟩
  · exact .inl (if_neg blank)

/-- A range that shows anything shows its touched lines. -/
theorem ofRange_of_ne_nil (code : Text) {first last : Nat} (nonempty : first < last)
    (inside : last ≤ code.length) (visible : ofRange code first last ≠ []) :
    ofRange code first last = (touched code first last).map ExcerptLine.ofLine := by
  rw [ofRange_eq_ofLines code nonempty inside] at visible ⊢
  exact (ofLines_eq_nil_or _).resolve_left visible

/-- The lines that a range shows are those of the points on its lines. -/
theorem getElem?_ofRange (code : Text) {first last : Nat} (nonempty : first < last)
    (inside : last ≤ code.length) (visible : ofRange code first last ≠ []) {k : Nat}
    (among : k < (ofRange code first last).length) :
    ∃ line, (ofRange code first last)[k]? = some line ∧
      (ofLineNumber code (newlines (code.take first) + k + 1) = [line] ∨
        ofLineNumber code (newlines (code.take first) + k + 1) = [] ∧ line = ⟨[], []⟩) := by
  have whole := ofRange_of_ne_nil code nonempty inside visible
  rw [whole, List.length_map] at among
  have found := getElem?_touched code first last (k := k)
    (by rw [length_touched code nonempty] at among; omega)
  rw [List.getElem?_eq_getElem among] at found
  refine ⟨ExcerptLine.ofLine (touched code first last)[k], ?_, ?_⟩
  · rw [whole, List.getElem?_map, List.getElem?_eq_getElem among]
    rfl
  · have point := ofLineNumber_succ code (newlines (code.take first) + k)
    rw [← found, Option.toList_some, Int.natCast_add] at point
    rw [point]
    exact ofLines_singleton_or _

/-- A point quotes what the range of its character quotes. -/
theorem ofPositions_point (source : Source) {offset : Nat} (inside : offset < source.code.length) :
    ofPositions (source.position offset) none = ofRange source.code offset (offset + 1) := by
  have present := (newlines_take_bounds source.code (Nat.lt_succ_self offset)).2
  rw [Nat.succ_sub_one] at present
  have single : touched source.code offset (offset + 1) =
      source.code.lines[newlines (source.code.take offset)]?.toList := by
    rw [touched, Nat.add_sub_cancel, Nat.sub_self, Nat.zero_add,
      List.drop_eq_getElem_cons present, List.take_succ_cons, List.take_zero,
      List.getElem?_eq_getElem present, Option.toList_some]
  have range := ofRange_eq_ofLines source.code (Nat.lt_succ_self offset) inside
  rw [Int.natCast_succ, single] at range
  rw [range, source.position_of_le (Nat.le_of_lt inside)]
  exact ofLineNumber_succ source.code _

/-- The quoted line of a character that belongs to no line end holds it, where
the column says. -/
theorem ofPositions_point_of_visible (source : Source) {offset : Nat}
    (inside : offset < source.code.length) (inLine : source.code[offset] ≠ '\n')
    (visible : ¬ (source.code[offset] = '\r' ∧
      (source.code[offset + 1]? = some '\n' ∨ source.code[offset + 1]? = none))) :
    ∃ line, ofPositions (source.position offset) none = [line] ∧
      line.text[(lastLine (source.code.take offset)).length]? = some source.code[offset] := by
  let front := lastLine (source.code.take offset)
  let back := firstLine (source.code.drop offset)
  have begins : back = source.code[offset] :: firstLine (source.code.drop (offset + 1)) := by
    change firstLine (source.code.drop offset) = _
    rw [List.drop_eq_getElem_cons inside, firstLine, List.takeWhile_cons_of_pos (by simpa using inLine)]
    rfl
  -- The character is lost only as the last one of its line, and then it ends that line.
  have kept : back.dropCarriageReturn.head? = some source.code[offset] := by
    rw [begins]
    by_cases more : firstLine (source.code.drop (offset + 1)) = []
    · have next : source.code[offset + 1]? = some '\n' ∨ source.code[offset + 1]? = none := by
        obtain ⟨after, split, stop⟩ := exists_eq_firstLine_append (source.code.drop (offset + 1))
        rw [more, List.nil_append] at split
        rw [← List.head?_drop, split]
        rcases stop with rfl | ⟨rest, rfl⟩
        · exact .inr rfl
        · exact .inl rfl
      have ne : source.code[offset] ≠ '\r' := fun same => visible ⟨same, next⟩
      rw [more, dropCarriageReturn_of_ne (by simpa using ne)]
      rfl
    · rw [← List.singleton_append, dropCarriageReturn_append more]
      rfl
  have text : (ExcerptLine.ofLine (front ++ back)).text = front ++ back.dropCarriageReturn := by
    rw [ExcerptLine.text_ofLine, dropCarriageReturn_append (by rw [begins]; exact List.cons_ne_nil _ _)]
  have found : (ExcerptLine.ofLine (front ++ back)).text[front.length]? = some source.code[offset] := by
    rw [text, List.getElem?_append_right (Nat.le_refl _), Nat.sub_self, ← List.head?_eq_getElem?, kept]
  refine ⟨ExcerptLine.ofLine (front ++ back), ?_, found⟩
  rw [source.position_of_le (Nat.le_of_lt inside)]
  change ofLineNumber source.code (newlines (source.code.take offset) + 1) = _
  rw [ofLineNumber_succ, getElem?_lines_newlines_take, Option.toList_some]
  refine (ofLines_singleton_or _).resolve_right fun lost => ?_
  rw [lost.2] at found
  exact absurd found (by simp [ExcerptLine.text])

/-- The views of a place agree. Positions computed from two offsets quote the
range between these. What a range shows has one line for each line number from
that of its first to that of its last character, and these are the lines which
points with such numbers show, an empty one where they show none. A point quotes
the range of its character, and a character that belongs to no line end stands in
the quoted line at its column. -/
theorem excerpts_of_place_agree (source : Source) :
    (∀ start stop : Int, ofPositions (source.position start) (some (source.position stop)) =
      ofRange source.code start stop) ∧
    (∀ start stop : Nat, start < stop → stop ≤ source.code.length →
      let quoted := ofPositions (source.position start) (some (source.position stop))
      quoted ≠ [] →
        (quoted.length : Int) =
          (source.position (stop - 1)).line - (source.position start).line + 1 ∧
        ∀ k < quoted.length, ∃ line, quoted[k]? = some line ∧
          (ofLineNumber source.code ((source.position start).line + k) = [line] ∨
            ofLineNumber source.code ((source.position start).line + k) = [] ∧
              line = ⟨[], []⟩)) ∧
    (∀ offset : Nat, offset < source.code.length →
      ofPositions (source.position offset) none = ofRange source.code offset (offset + 1)) ∧
    ∀ (offset : Nat) (inside : offset < source.code.length), source.code[offset] ≠ '\n' →
      ¬ (source.code[offset] = '\r' ∧
        (source.code[offset + 1]? = some '\n' ∨ source.code[offset + 1]? = none)) →
      ∃ line, ofPositions (source.position offset) none = [line] ∧
        line.text[((source.position offset).column - 1).toNat]? = some source.code[offset] := by
  refine ⟨ofPositions_position source, ?_, fun _ => ofPositions_point source, ?_⟩
  · intro start stop nonempty inside quoted visible
    have range : quoted = ofRange source.code start stop := ofPositions_position source start stop
    have first := source.position_of_le (show start ≤ source.code.length by omega)
    have last := source.position_of_le (show stop - 1 ≤ source.code.length by omega)
    have before : ((stop - 1 : Nat) : Int) = stop - 1 := by omega
    rw [before] at last
    rw [range] at visible ⊢
    rw [first, last]
    constructor
    · obtain ⟨ordered, _⟩ := newlines_take_bounds source.code nonempty
      rw [ofRange_of_ne_nil source.code nonempty inside visible, List.length_map,
        length_touched source.code nonempty]
      change ((_ : Nat) : Int) = (newlines _ + 1 : Int) - (newlines _ + 1) + 1
      omega
    · intro k among
      obtain ⟨line, found, point⟩ := getElem?_ofRange source.code nonempty inside visible among
      refine ⟨line, found, ?_⟩
      change ofLineNumber _ (newlines _ + 1 + k) = _ ∨ ofLineNumber _ (newlines _ + 1 + k) = _ ∧ _
      rwa [Int.add_right_comm]
  · intro offset inside inLine visible
    obtain ⟨line, single, found⟩ := ofPositions_point_of_visible source inside inLine visible
    refine ⟨line, single, ?_⟩
    rw [source.position_of_le (Nat.le_of_lt inside)]
    simpa using found

end Excerpt

end SourceDiagnostics
