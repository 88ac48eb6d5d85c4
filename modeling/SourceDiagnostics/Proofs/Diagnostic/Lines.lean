/-
# The lines of a report

A report is laid out in lines: one for the message, one for each note and, if anything is
quoted, one for each quoted line, with an empty line before them and two behind. This
module gives the lines, and shows that parting the text of a report at its newlines gives
just these.

Messages and locations are shown as they are, so they must not hold newlines themselves.
Nothing of the kind is asked of the source and of the positions. What is quoted consists
of lines of the source, whatever the positions say, and a line of a text holds no newline.

The numbers of the shown positions may be negative or contradict the source, but not too
long to be printed. There is no report of a position on a line of more digits than that.
-/

import SourceDiagnostics.Proofs.Diagnostic.Layout
import SourceDiagnostics.Proofs.Excerpt.Agreement

namespace SourceDiagnostics

namespace Text

/-- Lines that are written one behind the other, each with a newline before it, are the
lines of what is written. -/
theorem lines_append_flatMap {α : Type} (first : Text) (whole : '\n' ∉ first) {line : α → Text}
    {items : List α} (each : ∀ item ∈ items, '\n' ∉ line item) :
    (first ++ items.flatMap fun item => '\n' :: line item).lines = first :: items.map line := by
  induction items generalizing first with
  | nil => rw [List.flatMap_nil, List.append_nil, List.map_nil, lines_eq_singleton whole]
  | cons item rest ih =>
      rw [List.forall_mem_cons] at each
      rw [List.flatMap_cons, List.cons_append, lines_line_cons whole, ih _ each.1 each.2,
        List.map_cons]

end Text

namespace Diagnostic

/-- What the line of the message begins with. -/
def messageLabel : Text := "Error: ".toList

/-- What the line of a note begins with. -/
def noteLabel : Text := "  Note: ".toList

/-- What the line of a quoted line begins with. -/
def quoteMark : Text := "> ".toList

/-- What stands between a message and its location. -/
def locationLabel : Text := " (at ".toList

/-- What stands behind the message of a note whose position is unknown. -/
def unknownLabel : Text := " (at <unknown>)".toList

/-- A location as it stands behind a message. -/
def parenthesized (location : Text) : Text := locationLabel ++ location ++ [')']

/-- The line of the message. It shows a location if the error has a source. -/
def headLine (diagnostic : Diagnostic) (base : Path) : Text :=
  messageLabel ++ diagnostic.message ++
    if diagnostic.start.isKnown then parenthesized (diagnostic.start.spelled base) else []

/-- The line of a note. It shows a location if the note has a position, even if nothing is
known about that. -/
def noteLine (base : Path) (note : Note) : Text :=
  noteLabel ++ note.message ++
    match note.position with
    | none => []
    | some position =>
      if position.isKnown then parenthesized (position.spelled base) else unknownLabel

/-- The line of a quoted line. -/
def quotedLine (line : ExcerptLine) : Text := quoteMark ++ line.text

/-- What a report shows as it is holds no newline: its messages and its locations. -/
structure Unbroken (diagnostic : Diagnostic) (base : Path) : Prop where
  message : '\n' ∉ diagnostic.message
  location : diagnostic.start.isKnown = true → '\n' ∉ diagnostic.start.spelled base
  noteMessage : ∀ note ∈ diagnostic.notes, '\n' ∉ note.message
  noteLocation : ∀ note ∈ diagnostic.notes, ∀ position, note.position = some position →
    '\n' ∉ position.spelled base

variable {diagnostic : Diagnostic} {base : Path}

/-! ## The texts of the layout -/

theorem flatMap_text_locationSegments (location : Option Text) :
    (locationSegments location).flatMap Segment.text = location.elim [] parenthesized := by
  cases location with
  | none => rfl
  | some location => exact List.append_nil _

private theorem flatMap_text_headSegments (diagnostic : Diagnostic) (base : Path) :
    (headSegments diagnostic.message (diagnostic.startLocation? base)).flatMap Segment.text =
      diagnostic.headLine base := by
  have location : (diagnostic.startLocation? base).elim [] parenthesized =
      if diagnostic.start.isKnown then parenthesized (diagnostic.start.spelled base) else [] := by
    rw [startLocation?]
    split <;> rfl
  calc
    _ = messageLabel ++ (diagnostic.message ++
          (locationSegments (diagnostic.startLocation? base)).flatMap Segment.text) := rfl
    _ = messageLabel ++ (diagnostic.message ++
          if diagnostic.start.isKnown then parenthesized (diagnostic.start.spelled base)
          else []) := by rw [flatMap_text_locationSegments, location]
    _ = diagnostic.headLine base := (List.append_assoc _ _ _).symm

/-- A position about which nothing is known has a location all the same. -/
theorem parenthesized_spelled (position : Position) (base : Path) :
    parenthesized (position.spelled base) =
      if position.isKnown then parenthesized (position.spelled base) else unknownLabel := by
  obtain ⟨offset, line, column, _ | source⟩ := position
  · exact (by decide : parenthesized Position.unknownLocation = unknownLabel)
  · rfl

private theorem flatMap_text_noteSegments (base : Path) (note : Note) :
    (noteSegments note.message (note.location? base)).flatMap Segment.text =
      '\n' :: noteLine base note := by
  obtain ⟨message, _ | position⟩ := note
  · rfl
  · calc
      _ = '\n' :: (noteLabel ++ (message ++
            (locationSegments (some (position.spelled base))).flatMap Segment.text)) := rfl
      _ = '\n' :: (noteLabel ++ (message ++
            if position.isKnown then parenthesized (position.spelled base) else unknownLabel)) := by
        rw [flatMap_text_locationSegments, ← parenthesized_spelled]
        rfl
      _ = '\n' :: noteLine base ⟨message, position⟩ :=
        congrArg ('\n' :: ·) (List.append_assoc _ _ _).symm

private theorem flatMap_text_lineSegments (line : ExcerptLine) :
    (lineSegments line).flatMap Segment.text = '\n' :: quotedLine line := by
  obtain ⟨indent, code⟩ := line
  cases indent <;> cases code <;> simp [lineSegments, quotedLine, quoteMark, ExcerptLine.text]

/-- What stands behind the notes when something is quoted. -/
def quotation (excerpt : Excerpt) : Text :=
  (excerpt.flatMap fun line => '\n' :: quotedLine line) ++ ['\n', '\n']

theorem flatMap_text_excerptSegments (excerpt : Excerpt) :
    (excerptSegments excerpt).flatMap Segment.text =
      if excerpt = [] then [] else '\n' :: quotation excerpt := by
  rw [excerptSegments]
  by_cases empty : excerpt = []
  · rw [if_pos empty, if_pos (List.isEmpty_iff.mpr empty), List.flatMap_nil]
  · rw [if_neg empty, if_neg (List.isEmpty_iff.not.mpr empty), List.cons_append, List.flatMap_cons,
      List.flatMap_append, List.flatMap_assoc]
    simp only [flatMap_text_lineSegments]
    rfl

/-- The text of a layout, line by line. -/
theorem flatMap_text_layout (diagnostic : Diagnostic) (base : Path) :
    (diagnostic.layout base).flatMap Segment.text =
      (diagnostic.headLine base ++ diagnostic.notes.flatMap fun note => '\n' :: noteLine base note) ++
        if diagnostic.excerpt = [] then [] else '\n' :: quotation diagnostic.excerpt := by
  rw [layout, List.flatMap_append, List.flatMap_append, List.flatMap_assoc,
    flatMap_text_headSegments, flatMap_text_excerptSegments]
  simp only [flatMap_text_noteSegments]

/-! ## The lines of the text -/

theorem newline_not_mem_parenthesized {location : Text} (whole : '\n' ∉ location) :
    '\n' ∉ parenthesized location := by
  rw [parenthesized, List.mem_append, List.mem_append]
  rintro ((mem | mem) | mem)
  · exact absurd mem (by decide)
  · exact whole mem
  · exact absurd mem (by decide)

private theorem Unbroken.headLine (unbroken : diagnostic.Unbroken base) :
    '\n' ∉ diagnostic.headLine base := by
  rw [Diagnostic.headLine, List.mem_append, List.mem_append]
  rintro ((mem | mem) | mem)
  · exact absurd mem (by decide)
  · exact unbroken.message mem
  · split at mem
    next known => exact newline_not_mem_parenthesized (unbroken.location known) mem
    next => exact absurd mem List.not_mem_nil

private theorem Unbroken.noteLine (unbroken : diagnostic.Unbroken base) {note : Note}
    (among : note ∈ diagnostic.notes) : '\n' ∉ Diagnostic.noteLine base note := by
  rw [Diagnostic.noteLine, List.mem_append, List.mem_append]
  rintro ((mem | mem) | mem)
  · exact absurd mem (by decide)
  · exact unbroken.noteMessage note among mem
  · split at mem
    next => exact absurd mem List.not_mem_nil
    next position placed =>
      rw [← parenthesized_spelled] at mem
      exact newline_not_mem_parenthesized (unbroken.noteLocation note among position placed) mem

/-- Whatever is quoted of a text takes one line each. -/
theorem newline_not_mem_quotedLine {line : ExcerptLine} (among : line ∈ diagnostic.excerpt) :
    '\n' ∉ quotedLine line := by
  obtain ⟨_, _, text, mem, rfl⟩ := Excerpt.exists_mem_lines_of_mem_ofPositions among
  rw [quotedLine, List.mem_append, not_or]
  refine ⟨by decide, ?_⟩
  exact ExcerptLine.newline_not_mem_text_ofLine (Text.newline_not_mem_of_mem_lines mem)

private theorem lines_quotation (diagnostic : Diagnostic) :
    (quotation diagnostic.excerpt).lines = [] :: diagnostic.excerpt.map quotedLine ++ [[], []] := by
  have quoted := Text.lines_append_flatMap [] List.not_mem_nil
    fun line (among : line ∈ diagnostic.excerpt) => newline_not_mem_quotedLine among
  rw [quotation, Text.lines_append_of_lineEnd (.inr ⟨['\n'], rfl⟩)]
  exact congrArg (· ++ [[], []]) quoted

/-- The lines of a layout, and where each quoted line stands among them. -/
theorem lines_layout (unbroken : diagnostic.Unbroken base) :
    let lines := Text.lines ((diagnostic.layout base).flatMap Segment.text)
    lines = diagnostic.headLine base :: diagnostic.notes.map (Diagnostic.noteLine base) ++
          (if diagnostic.excerpt = [] then []
            else [] :: diagnostic.excerpt.map quotedLine ++ [[], []]) ∧
      ∀ (k : Nat) (line : ExcerptLine), diagnostic.excerpt[k]? = some line →
        lines[diagnostic.notes.length + 2 + k]? = some (quotedLine line) := by
  intro lines
  have above := Text.lines_append_flatMap _ unbroken.headLine
    fun note (among : note ∈ diagnostic.notes) => unbroken.noteLine among
  have whole : lines =
      diagnostic.headLine base :: diagnostic.notes.map (Diagnostic.noteLine base) ++
        (if diagnostic.excerpt = [] then []
          else [] :: diagnostic.excerpt.map quotedLine ++ [[], []]) := by
    dsimp only [lines]
    rw [flatMap_text_layout]
    split
    · rw [List.append_nil, List.append_nil, above]
    · rw [Text.lines_append_of_lineEnd (.inr ⟨_, rfl⟩), above, Text.lines_newline_cons,
        List.tail_cons, lines_quotation]
  refine ⟨whole, fun k line found => ?_⟩
  have visible : diagnostic.excerpt ≠ [] := by
    intro empty
    rw [empty] at found
    exact absurd found nofun
  obtain ⟨present, _⟩ := List.getElem?_eq_some_iff.mp found
  have place : diagnostic.notes.length + 2 + k =
      (diagnostic.headLine base :: diagnostic.notes.map (Diagnostic.noteLine base)).length +
        (k + 1) := by
    rw [List.length_cons, List.length_map]
    omega
  rw [whole, if_neg visible, place, List.getElem?_append_right (Nat.le_add_right _ _),
    Nat.add_sub_cancel_left, List.cons_append, List.getElem?_cons_succ,
    List.getElem?_append_left (by rwa [List.length_map]), List.getElem?_map, found, Option.map_some]

/-- The lines of a report. There is a report exactly if the shown locations can be printed.
Its first line is that of the message, and those of the notes follow in their order. Where
nothing is quoted they are all; otherwise an empty line, the quoted lines in their order,
and two empty texts follow, for a report then ends with an empty line. A quoted line has a
line of the report to itself, at the place that the number of notes and the quoted lines
before it tell. -/
theorem lines_text (unbroken : diagnostic.Unbroken base) :
    ((∃ report, diagnostic.text base = .ok report) ↔ diagnostic.Writable) ∧
      ∀ report, diagnostic.text base = .ok report →
        report.lines =
            diagnostic.headLine base :: diagnostic.notes.map (Diagnostic.noteLine base) ++
              (if diagnostic.excerpt = [] then []
                else [] :: diagnostic.excerpt.map quotedLine ++ [[], []]) ∧
          ∀ (k : Nat) (line : ExcerptLine), diagnostic.excerpt[k]? = some line →
            report.lines[diagnostic.notes.length + 2 + k]? = some (quotedLine line) := by
  constructor
  · simp only [text_eq_ok_iff, exists_and_left, exists_eq, and_true]
  · intro report told
    obtain rfl := (text_eq_ok_iff.mp told).2
    exact lines_layout unbroken

/-- The numbers of a position need not agree with each other or with the source. -/
theorem lines_text_of_misplaced :
    let source : Source := ⟨"f".toList, false, "\tx\r\ny".toList⟩
    let diagnostic : Diagnostic :=
      { start := ⟨-7, -1, 0, some source⟩, stop := some ⟨1000000, 0, 0, none⟩
        message := "m".toList, notes := [⟨"n".toList, some .unknown⟩, ⟨"o".toList, none⟩] }
    diagnostic.Unbroken .top ∧
      ∃ report, diagnostic.text .top = .ok report ∧
        report.lines =
          ["Error: m (at f:-1:0)".toList, "  Note: n (at <unknown>)".toList, "  Note: o".toList,
            [], "> \tx".toList, "> y".toList, [], []] := by
  intro source diagnostic
  have unbroken : diagnostic.Unbroken .top :=
    { message := by decide
      location := fun _ => by decide +kernel
      noteMessage := by decide
      noteLocation := by
        intro note among position placed
        have unknown : position = .unknown := by
          rcases List.mem_cons.mp among with rfl | among
          · exact (Option.some.inj placed).symm
          · obtain rfl := List.mem_singleton.mp among
            exact absurd placed nofun
        rw [unknown]
        decide }
  have writable : diagnostic.Writable := by decide +kernel
  obtain ⟨exist, lines⟩ := lines_text unbroken
  obtain ⟨report, told⟩ := exist.mpr writable
  refine ⟨unbroken, report, told, ?_⟩
  rw [(lines report told).1]
  decide +kernel

/-- An error on a line whose number has one digit more than can be printed. -/
def remote : Diagnostic where
  start := ⟨0, (10 ^ Text.numeralLimit : Nat), 1, some (.ofText ['x'])⟩
  stop := none
  message := ['m']

/-- Nothing that such an error shows breaks a line, but there is no report of it. -/
theorem text_remote : remote.Unbroken .top ∧ remote.text .top = .error .tooLong := by
  have unbroken : remote.Unbroken .top :=
    { message := by decide
      location := fun _ => by
        refine Position.newline_not_mem_spelled fun source same => ?_
        cases same
        decide +kernel
      noteMessage := nofun
      noteLocation := nofun }
  have long : ¬ remote.Writable := by
    intro writable
    have short := (writable.start rfl).1
    rw [Text.isWritable_iff, remote, Int.natAbs_natCast] at short
    exact Nat.lt_irrefl _ short
  exact ⟨unbroken, text_eq_error_iff.mpr long⟩

end Diagnostic

end SourceDiagnostics
