/-
# The line of a number

A point is quoted by walking to its line, from one newline to the next. Between two steps
the walk stands where a line begins, and it has as many newlines behind it as it has taken
steps. It stops early just when the text has no newline left for a step, so a number far
beyond the text costs no more than the text itself.

What the walk finds is what splitting the text into lines puts in that place. It may be the
empty line behind a newline at the very end. A blank line is found like any other, but
nothing is quoted of it.
-/

import SourceDiagnostics.Proofs.Excerpt.Point
import SourceDiagnostics.Proofs.Position.Coordinates

namespace SourceDiagnostics

namespace Text

/-! ## Where a line begins -/

/-- A line that has `count` lines in front of it begins at an offset. -/
structure LineBegins (text : Text) (count offset : Nat) : Prop where
  inside : offset ≤ text.length
  start : LineStart (text.take offset)
  /-- In front of it stands a newline for each of these lines. -/
  counted : newlines (text.take offset) = count

/-- A line begins behind whole lines. -/
theorem lineBegins_append {before : Text} (start : LineStart before) (rest : Text) :
    LineBegins (before ++ rest) before.newlines before.length := by
  have front : (before ++ rest).take before.length = before := List.take_left
  refine ⟨?_, ?_, ?_⟩
  · rw [List.length_append]
    exact Nat.le_add_right _ _
  · rwa [front]
  · rw [front]

private theorem lineBegins_zero (text : Text) :
    LineBegins text 0 0 := lineBegins_append (.inl rfl) text

namespace LineBegins

variable {text : Text} {count offset : Nat}

/-- In front of a line stand the characters of the lines before it, and their newlines. -/
theorem eq_lineOffset (begins : LineBegins text count offset) :
    offset = text.lineOffset count := by
  have front := lineOffset_newlines begins.start (text.drop offset)
  rw [List.take_append_drop, begins.counted, List.length_take, min_eq_left begins.inside] at front
  exact front.symm

/-- The newlines of a text that do not stand in front of a line stand behind its beginning. -/
theorem newlines_eq (begins : LineBegins text count offset) :
    newlines text = count + newlines (text.drop offset) := by
  rw [← begins.counted, ← newlines_append, List.take_append_drop]

/-- Behind a line and its newline, the next line begins. -/
theorem succ (begins : LineBegins text count offset) {line rest : Text} (unbroken : '\n' ∉ line)
    (remaining : text.drop offset = line ++ '\n' :: rest) :
    ∃ next, LineBegins text (count + 1) next ∧ text.drop next = rest := by
  let before : Text := text.take offset ++ line ++ ['\n']
  have whole : text = before ++ rest := by
    calc
      text = text.take offset ++ text.drop offset := (List.take_append_drop offset text).symm
      _ = before ++ rest := by simp [before, remaining]
  have counted : newlines before = count + 1 := by
    simp only [before, newlines_append, begins.counted, newlines_eq_zero unbroken]
    rfl
  refine ⟨before.length, ?_, ?_⟩
  · have after := lineBegins_append (.inr ⟨text.take offset ++ line, rfl⟩ : LineStart before) rest
    rwa [← whole, counted] at after
  · rw [whole]
    exact List.drop_left

end LineBegins

end Text

namespace Excerpt

open Text

/-! ## The walk -/

/-- One step more goes on from where the steps before have led. -/
theorem skipLines_succ (count : Nat) (text : Text) :
    skipLines (count + 1) text = (skipLines count text).bind (skipLines 1) := by
  induction count generalizing text with
  | zero => rfl
  | succ count ih =>
      cases text using line_induction with
      | single text unbroken =>
          rw [skipLines_of_not_mem unbroken, skipLines_of_not_mem unbroken, Option.bind_none]
      | more line rest unbroken => rw [skipLines_line_cons unbroken, skipLines_line_cons unbroken, ih]

/-- From where a line begins, a step leads to where the next one does, unless no newline is
left. -/
theorem skipLines_one_of_lineBegins {code : Text} {count offset : Nat}
    (begins : LineBegins code count offset) :
    skipLines 1 (code.drop offset) = none ∧ code.newlines = count ∨
      ∃ next, skipLines 1 (code.drop offset) = some (code.drop next) ∧
        LineBegins code (count + 1) next := by
  by_cases mem : '\n' ∈ code.drop offset
  · obtain ⟨line, rest, remaining, unbroken⟩ := List.eq_append_cons_of_mem mem
    obtain ⟨next, begins', rfl⟩ := begins.succ unbroken remaining
    refine .inr ⟨next, ?_, begins'⟩
    rw [remaining]
    exact skipLines_line_cons unbroken 0 _
  · refine .inl ⟨skipLines_of_not_mem mem 0, ?_⟩
    rw [begins.newlines_eq, newlines_eq_zero mem, Nat.add_zero]

/-- After any number of steps, the walk has stopped for want of a newline or stands where a line
begins. -/
theorem skipLines_cases (code : Text) (count : Nat) :
    skipLines count code = none ∧ code.newlines < count ∨
      ∃ offset, skipLines count code = some (code.drop offset) ∧ LineBegins code count offset := by
  induction count with
  | zero => exact .inr ⟨0, rfl, lineBegins_zero code⟩
  | succ count ih =>
      rw [skipLines_succ]
      rcases ih with ⟨stopped, few⟩ | ⟨offset, stands, begins⟩
      · rw [stopped]
        exact .inl ⟨rfl, by omega⟩
      · rw [stands, Option.bind_some]
        rcases skipLines_one_of_lineBegins begins with ⟨stopped, few⟩ | ⟨next, leads, begins'⟩
        · exact .inl ⟨stopped, by omega⟩
        · exact .inr ⟨next, leads, begins'⟩

theorem skipLines_eq_none_iff (code : Text) (count : Nat) :
    skipLines count code = none ↔ code.newlines < count := by
  rcases skipLines_cases code count with ⟨stopped, few⟩ | ⟨offset, stands, begins⟩
  · exact iff_of_true stopped few
  · have enough := begins.newlines_eq
    rw [stands]
    exact iff_of_false (Option.some_ne_none _) (by omega)

/-- What the walk leaves is the text from the offset on where the line it has reached begins. -/
theorem skipLines_eq_some_iff (code : Text) (count : Nat) (rest : Text) :
    skipLines count code = some rest ↔
      ∃ offset, LineBegins code count offset ∧ code.drop offset = rest := by
  rcases skipLines_cases code count with ⟨stopped, few⟩ | ⟨offset, stands, begins⟩
  · rw [stopped]
    refine iff_of_false (Option.some_ne_none rest).symm ?_
    rintro ⟨offset, begins, -⟩
    have enough := begins.newlines_eq
    omega
  · rw [stands, Option.some_inj]
    constructor
    · intro same
      exact ⟨offset, begins, same⟩
    · rintro ⟨other, begins', same⟩
      rw [begins.eq_lineOffset, ← begins'.eq_lineOffset, same]

/-! ## The line -/

/-- A text has a line of the given number, and it is neither empty nor a lone carriage return. -/
structure ShowsLine (code : Text) (number : Int) (line : Text) : Prop where
  positive : 1 ≤ number
  found : code.lines[(number - 1).toNat]? = some line
  nonempty : line ≠ []
  visible : line ≠ ['\r']

private theorem ofLineNumber_of_showsLine {code : Text} {number : Int} {line : Text}
    (shows : ShowsLine code number line) : ofLineNumber code number = [.ofLine line] := by
  have visible : ¬ line.isBlank = true := by
    rw [isBlank_iff, not_or]
    exact ⟨shows.nonempty, shows.visible⟩
  rw [ofLineNumber_eq_ofLines code shows.positive, shows.found, Option.toList_some, ofLines,
    if_neg visible]

private theorem ofLineNumber_of_not_showsLine {code : Text} {number : Int}
    (nothing : ∀ line, ¬ ShowsLine code number line) : ofLineNumber code number = [] := by
  by_cases positive : 1 ≤ number
  · rw [ofLineNumber_eq_ofLines code positive]
    cases found : code.lines[(number - 1).toNat]? with
    | none => rfl
    | some line =>
        have blank : line.isBlank = true := by
          rw [isBlank_iff]
          by_contra visible
          rw [not_or] at visible
          exact nothing line ⟨positive, found, visible.1, visible.2⟩
        rw [Option.toList_some, ofLines, if_pos blank]
  · rw [ofLineNumber, if_pos (by omega)]

/-- A point quotes the line of its number, as splitting the text tells it, and nothing when
there is no such line or it is blank. The walk to that line goes step by step, one step less
than its number. After any number of steps it has stopped, which it does just when the text has
fewer newlines than that, or it stands where the line behind so many newlines begins. -/
theorem ofLineNumber_quotes_numbered (code : Text) (number : Int) :
    (∀ part, ofLineNumber code number = [part] ↔
      ∃ line, ShowsLine code number line ∧ part.Quotes line) ∧
    (ofLineNumber code number = [] ↔ ∀ line, ¬ ShowsLine code number line) ∧
    ∀ count : Nat,
      skipLines (count + 1) code = (skipLines count code).bind (skipLines 1) ∧
      (skipLines count code = none ↔ code.newlines < count) ∧
      (∀ rest, skipLines count code = some rest ↔
        ∃ offset, LineBegins code count offset ∧ code.drop offset = rest) ∧
      (skipLines count code).map firstLine = code.lines[count]? := by
  refine ⟨fun part => ⟨fun single => ?_, ?_⟩, ⟨fun empty line shows => ?_, ?_⟩, fun count => ?_⟩
  · by_cases shown : ∃ line, ShowsLine code number line
    · obtain ⟨line, shows⟩ := shown
      rw [ofLineNumber_of_showsLine shows, List.singleton_inj] at single
      exact ⟨line, shows, (ExcerptLine.quotes_iff part line).mpr single.symm⟩
    · rw [ofLineNumber_of_not_showsLine (not_exists.mp shown)] at single
      exact absurd single (List.cons_ne_nil part []).symm
  · rintro ⟨line, shows, quotes⟩
    rw [ofLineNumber_of_showsLine shows, (ExcerptLine.quotes_iff part line).mp quotes]
  · rw [ofLineNumber_of_showsLine shows] at empty
    exact List.cons_ne_nil _ _ empty
  · exact ofLineNumber_of_not_showsLine
  · exact ⟨skipLines_succ count code, skipLines_eq_none_iff code count,
      skipLines_eq_some_iff code count, map_firstLine_skipLines count code⟩

/-- Behind a newline at the very end the walk stands at the end of the text, and goes no
further. -/
example : skipLines 1 "a\n".toList = some [] ∧ skipLines 2 "a\n".toList = none ∧
    ofLineNumber "a\n".toList 1 = [⟨[], ['a']⟩] ∧ ofLineNumber "a\n".toList 2 = [] := by
  decide

end Excerpt

end SourceDiagnostics
