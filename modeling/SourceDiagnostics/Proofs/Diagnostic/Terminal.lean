/-
# A colored report on a terminal

A terminal has a look in force, and shows every character in that look. A control
sequence of digits and semicolons that ends in `m` is not shown. It puts itself in force,
or, if it is the one that resets the terminal, puts no look in force. Nothing else is ever
taken for a sequence, so an escape character that begins none is shown like the others.

This module settles what a colored report looks like there. Every text of the layout is
shown character by character in the look of its style, and nothing is shown besides. Each
segment leaves the terminal without a look, as it found it, and so does the whole report.
Line breaks, the marks before quoted lines and the indentation of these never have a look.

The texts of the layout must hold no escape character of their own. A message with a
sequence in it would change the look of what follows.
-/

import SourceDiagnostics.Proofs.Diagnostic.Content
import SourceDiagnostics.Proofs.Text.ControlSequence

namespace SourceDiagnostics

/-! ## Terminals -/

/-- Sequences of digits and semicolons that an `m` completes. They choose the look of what
is shown behind them. -/
def ControlSequence.rendition : ControlSequence where
  parameter c := c = ';' || c.isDigit
  intermediate _ := false
  final c := c = 'm'

theorem ControlSequence.rendition_distinct : rendition.Distinct where
  intermediate _ middle := absurd middle Bool.false_ne_true
  final c final := by
    obtain rfl : c = 'm' := of_decide_eq_true final
    exact ⟨rfl, rfl⟩

open ControlSequence (rendition rendition_distinct)

/-- A character on a screen, with the sequence that was in force when it was shown. -/
structure Cell where
  char : Char
  /-- The sequence that gives it its look, if any. -/
  look : Option Text
deriving DecidableEq

/-- A terminal. -/
structure Terminal where
  shown : List Cell := []
  look : Option Text := none
deriving DecidableEq

namespace Terminal

/-- The sequence that puts no look in force. -/
def reset : Text := "\x1b[0m".toList

/-- The look that a sequence puts in force. -/
def lookOf (sequence : Text) : Option Text := if sequence = reset then none else some sequence

/-- The terminal after a text was written to it. -/
def write (terminal : Terminal) : Text → Terminal
  | [] => terminal
  | c :: text =>
    match _h : rendition.rest? (c :: text) with
    | some rest =>
      -- What is not behind the sequence is the sequence itself.
      let sequence : Text := (c :: text).take (text.length + 1 - rest.length)
      write { terminal with look := lookOf sequence } rest
    | none => write { terminal with shown := terminal.shown ++ [⟨c, terminal.look⟩] } text
termination_by text => text.length
decreasing_by
  · exact ControlSequence.length_rest?_lt _h
  · simp

/-- A text in one look. -/
def cells (look : Option Text) (text : Text) : List Cell := text.map (⟨·, look⟩)

@[simp]
theorem cells_nil (look : Option Text) : cells look [] = [] := rfl

/-- The terminal after cells were added to what it has shown. -/
def add (terminal : Terminal) (cells : List Cell) : Terminal :=
  { terminal with shown := terminal.shown ++ cells }

@[simp]
theorem add_nil (terminal : Terminal) : terminal.add [] = terminal := by
  rw [add, List.append_nil]

@[simp]
theorem add_add (terminal : Terminal) (first second : List Cell) :
    (terminal.add first).add second = terminal.add (first ++ second) := by
  simp only [add, List.append_assoc]

/-! ## Writing to a terminal -/

@[simp]
theorem write_nil (terminal : Terminal) : terminal.write [] = terminal := by
  rw [write]

private theorem write_of_rest?_eq_some (terminal : Terminal) {text rest : Text}
    (found : rendition.rest? text = some rest) :
    terminal.write text =
      { terminal with look := lookOf (text.take (text.length - rest.length)) }.write rest := by
  fun_cases write terminal text with
  | case1 => exact absurd found nofun
  | case2 c text other same =>
      obtain rfl := Option.some.inj (same.symm.trans found)
      rfl
  | case3 c text absent => exact absurd (found.symm.trans absent) nofun

private theorem write_cons_of_rest?_eq_none (terminal : Terminal) {c : Char} {text : Text}
    (absent : rendition.rest? (c :: text) = none) :
    terminal.write (c :: text) = (terminal.add [⟨c, terminal.look⟩]).write text := by
  have whole : ∀ other, other = c :: text →
      terminal.write other = (terminal.add [⟨c, terminal.look⟩]).write text := by
    intro other same
    fun_cases write terminal other with
    | case1 => cases same
    | case2 d behind rest found =>
        rw [same, absent] at found
        cases found
    | case3 d behind =>
        cases same
        rfl
  exact whole _ rfl

/-- A sequence is not shown, and is in force afterwards. -/
theorem write_sequence_append (terminal : Terminal) {word : Text}
    (sequence : rendition.IsSequence word) (rest : Text) :
    terminal.write (word ++ rest) = { terminal with look := lookOf word }.write rest := by
  have found : rendition.rest? (word ++ rest) = some rest :=
    (ControlSequence.rest?_eq_some_iff rendition_distinct).mpr ⟨word, sequence, rfl⟩
  have length : (word ++ rest).length - rest.length = word.length := by
    rw [List.length_append, Nat.add_sub_cancel]
  rw [write_of_rest?_eq_some terminal found, length, List.take_left]

/-- A text without escape characters is shown in the look in force. -/
theorem write_append_of_escape_not_mem (terminal : Terminal) {text : Text}
    (plain : '\x1b' ∉ text) (rest : Text) :
    terminal.write (text ++ rest) = (terminal.add (cells terminal.look text)).write rest := by
  induction text generalizing terminal with
  | nil => rw [cells_nil, add_nil, List.nil_append]
  | cons c text ih =>
      rw [List.mem_cons, not_or] at plain
      have absent : rendition.rest? (c :: (text ++ rest)) = none :=
        ControlSequence.rest?_eq_none_of_ne (Ne.symm plain.1) _
      rw [List.cons_append, write_cons_of_rest?_eq_none terminal absent, ih _ plain.2, add_add]
      rfl

/-! ## The looks of a report -/

-- The numbers of looks: 1 is bold, 2 is dim, 4 is underlined, 31 is red and 32 is green.
def red : Text := "\x1b[31m".toList

def bold : Text := "\x1b[1m".toList

def dim : Text := "\x1b[2m".toList

def green : Text := "\x1b[32m".toList

def boldUnderlined : Text := "\x1b[1;4m".toList

def codeLook (emphasize : Bool) : Option Text := if emphasize then some boldUnderlined else none

/-- The look of a style. -/
def styleLook (emphasize : Bool) : Style → Option Text
  | .primaryLabel => some red
  | .primaryMessage => some bold
  | .location => some dim
  | .noteLabel => some green
  | .snippetEmphasis => codeLook emphasize
  | .plain | .noteText | .snippetQuote => none

/-- A segment in the look of its style. -/
def segmentCells (emphasize : Bool) (segment : Segment) : List Cell :=
  cells (styleLook emphasize segment.style) segment.text

theorem isSequence_reset : rendition.IsSequence reset :=
  (ControlSequence.isSequence_iff rendition_distinct _).mpr (by decide)

/-- A look is a sequence that puts itself in force. -/
theorem isSequence_of_styleLook {emphasize : Bool} {style : Style} {look : Text}
    (found : styleLook emphasize style = some look) :
    rendition.IsSequence look ∧ lookOf look = some look := by
  rw [ControlSequence.isSequence_iff rendition_distinct]
  cases style <;> cases emphasize <;> cases found <;> decide

/-- What a renderer writes for a segment is its text, or its text between the look of its
style and the sequence that takes it away. -/
theorem segment_eq (emphasize : Bool) (base : Option Path) (segment : Segment) :
    (⟨true, emphasize, base⟩ : Renderer).segment segment =
      match styleLook emphasize segment.style with
      | none => segment.text
      | some look => if segment.text.isEmpty then [] else look ++ segment.text ++ reset := by
  obtain ⟨text, style⟩ := segment
  cases style <;> cases emphasize <;> rfl

/-- A terminal without a look shows a segment in that of its style, and has none again. -/
theorem write_segment_append {terminal : Terminal} (bare : terminal.look = none)
    (emphasize : Bool) (base : Option Path) {segment : Segment} (plain : '\x1b' ∉ segment.text)
    (rest : Text) :
    terminal.write ((⟨true, emphasize, base⟩ : Renderer).segment segment ++ rest) =
      (terminal.add (segmentCells emphasize segment)).write rest := by
  rw [segment_eq, segmentCells]
  cases styled : styleLook emphasize segment.style with
  | none =>
      simp only
      rw [write_append_of_escape_not_mem terminal plain, bare]
  | some look =>
      obtain ⟨sequence, kept⟩ := isSequence_of_styleLook styled
      by_cases empty : segment.text = []
      · simp [empty]
      · have restored : lookOf reset = terminal.look := bare.symm
        simp only [List.isEmpty_iff, if_neg empty, List.append_assoc]
        rw [write_sequence_append _ sequence, write_append_of_escape_not_mem _ plain,
          write_sequence_append _ isSequence_reset, kept, restored]
        rfl

/-- A terminal without a look shows each segment in that of its style, and has none at the
end. -/
theorem write_segments {terminal : Terminal} (bare : terminal.look = none) (emphasize : Bool)
    (base : Option Path) {segments : List Segment}
    (plain : ∀ segment ∈ segments, '\x1b' ∉ segment.text) :
    terminal.write ((⟨true, emphasize, base⟩ : Renderer).segments segments) =
      terminal.add (segments.flatMap (segmentCells emphasize)) := by
  induction segments generalizing terminal with
  | nil => exact (write_nil terminal).trans (add_nil terminal).symm
  | cons segment rest ih =>
      rw [List.forall_mem_cons] at plain
      have still : (terminal.add (segmentCells emphasize segment)).look = none := bare
      rw [Renderer.segments, List.flatMap_cons, ← Renderer.segments,
        write_segment_append bare emphasize base plain.1, ih still plain.2, add_add,
        List.flatMap_cons]

end Terminal

namespace Diagnostic

open Terminal

/-! ## The looks of a layout -/

/-- A location behind a message is dim. -/
def placeCells : Option Text → List Cell
  | none => []
  | some location => cells (some dim) (parenthesized location)

/-- The line of the message begins red and goes on bold. -/
def headCells (diagnostic : Diagnostic) (base : Path) : List Cell :=
  cells (some red) messageLabel ++ (cells (some bold) diagnostic.message ++
    placeCells (diagnostic.startLocation? base))

/-- The line of a note begins green, and its message has no look. -/
def noteCells (base : Path) (note : Note) : List Cell :=
  cells none ['\n'] ++ (cells (some green) noteLabel ++ (cells none note.message ++
    placeCells (note.location? base)))

/-- Of a quoted line, only the code may have a look. -/
def lineCells (emphasize : Bool) (line : ExcerptLine) : List Cell :=
  cells none ('\n' :: quoteMark ++ line.indent) ++ cells (codeLook emphasize) line.code

/-- The empty lines around the quoted lines have no look. -/
def excerptCells (emphasize : Bool) (excerpt : Excerpt) : List Cell :=
  if excerpt = [] then []
  else cells none ['\n'] ++ excerpt.flatMap (lineCells emphasize) ++ cells none ['\n', '\n']

variable (emphasize : Bool) (base : Path)

theorem flatMap_segmentCells_locationSegments (location : Option Text) :
    (locationSegments location).flatMap (segmentCells emphasize) = placeCells location := by
  cases location with
  | none => rfl
  | some location => exact List.append_nil _

private theorem flatMap_segmentCells_headSegments (diagnostic : Diagnostic) :
    (headSegments diagnostic.message (diagnostic.startLocation? base)).flatMap
        (segmentCells emphasize) = diagnostic.headCells base := by
  rw [headSegments, List.flatMap_cons, List.flatMap_cons, flatMap_segmentCells_locationSegments]
  rfl

private theorem flatMap_segmentCells_noteSegments (note : Note) :
    (noteSegments note.message (note.location? base)).flatMap (segmentCells emphasize) =
      noteCells base note := by
  rw [noteSegments, List.flatMap_cons, List.flatMap_cons, List.flatMap_cons,
    flatMap_segmentCells_locationSegments]
  rfl

private theorem flatMap_segmentCells_lineSegments (line : ExcerptLine) :
    (lineSegments line).flatMap (segmentCells emphasize) = lineCells emphasize line := by
  obtain ⟨indent, code⟩ := line
  cases indent <;> cases code <;>
    simp [lineSegments, segmentCells, styleLook, lineCells, cells, quoteMark]

theorem flatMap_segmentCells_excerptSegments (excerpt : Excerpt) :
    (excerptSegments excerpt).flatMap (segmentCells emphasize) =
      excerptCells emphasize excerpt := by
  rw [excerptSegments, excerptCells]
  by_cases empty : excerpt = []
  · rw [if_pos empty, if_pos (List.isEmpty_iff.mpr empty), List.flatMap_nil]
  · rw [if_neg empty, if_neg (List.isEmpty_iff.not.mpr empty), List.cons_append, List.flatMap_cons,
      List.flatMap_append, List.flatMap_assoc, List.append_assoc]
    simp only [flatMap_segmentCells_lineSegments]
    rfl

/-- The cells of a layout, part by part. -/
theorem flatMap_segmentCells_layout (diagnostic : Diagnostic) :
    (diagnostic.layout base).flatMap (segmentCells emphasize) =
      diagnostic.headCells base ++ diagnostic.notes.flatMap (noteCells base) ++
        excerptCells emphasize diagnostic.excerpt := by
  rw [layout, List.flatMap_append, List.flatMap_append, List.flatMap_assoc,
    flatMap_segmentCells_headSegments, flatMap_segmentCells_excerptSegments]
  simp only [flatMap_segmentCells_noteSegments]

/-- A colored report on a terminal. Unless a text of the layout holds an escape character,
the terminal shows the characters of the segments in their order, each in the look that the
style of its segment prescribes, and has no look in force at the end. So labels are red and
green, the message is bold and locations are dim; code is bold and underlined if it is to be
emphasized; and line breaks, the messages of notes, the marks before quoted lines and their
indentation are shown without a look. -/
theorem write_render (diagnostic : Diagnostic) (directory : Path) (base : Option Path)
    (emphasize : Bool) {laid : List Segment}
    (exist : diagnostic.segments (base.getD directory) = .ok laid)
    (plain : ∀ segment ∈ laid, '\x1b' ∉ segment.text) :
    let colored : Renderer := ⟨true, emphasize, base⟩
    ∃ report, colored.render directory diagnostic = .ok report ∧
      let screen := Terminal.write {} report
      screen.look = none ∧
        screen.shown = laid.flatMap (fun segment =>
          cells (styleLook emphasize segment.style) segment.text) ∧
        screen.shown = diagnostic.headCells (base.getD directory) ++
          diagnostic.notes.flatMap (noteCells (base.getD directory)) ++
            excerptCells emphasize diagnostic.excerpt := by
  intro colored
  refine ⟨colored.segments laid, congrArg (Except.map colored.segments) exist, ?_⟩
  intro screen
  have whole : screen = Terminal.add {} (laid.flatMap (segmentCells emphasize)) :=
    write_segments rfl emphasize base plain
  have shown : screen.shown = laid.flatMap (segmentCells emphasize) := by
    rw [whole]
    rfl
  refine ⟨by rw [whole]; rfl, shown, ?_⟩
  rw [shown, (segments_eq_ok_iff.mp exist).2, flatMap_segmentCells_layout]

/-- Of an indented line, the code alone is underlined. -/
theorem write_render_of_indented :
    let source : Source := ⟨"f".toList, false, "\tx".toList⟩
    let diagnostic : Diagnostic :=
      { start := ⟨1, 1, 2, some source⟩, stop := none, message := [], notes := [⟨"n".toList, none⟩] }
    ∃ laid report, diagnostic.segments .top = .ok laid ∧
      (∀ segment ∈ laid, '\x1b' ∉ segment.text) ∧
      (⟨true, true, none⟩ : Renderer).render .top diagnostic = .ok report ∧
      (Terminal.write {} report).shown =
        cells (some red) "Error: ".toList ++ cells (some dim) " (at f:1:2)".toList ++
          cells none "\n".toList ++ cells (some green) "  Note: ".toList ++
          cells none "n\n\n> \t".toList ++ cells (some boldUnderlined) "x".toList ++
          cells none "\n\n".toList := by
  intro source diagnostic
  have exist : diagnostic.segments .top = .ok (diagnostic.layout .top) :=
    segments_eq_ok_iff.mpr ⟨by decide +kernel, rfl⟩
  have plain : ∀ segment ∈ diagnostic.layout .top, '\x1b' ∉ segment.text := by decide +kernel
  obtain ⟨report, rendered, _, _, shown⟩ := diagnostic.write_render .top none true exist plain
  refine ⟨_, report, exist, plain, rendered, ?_⟩
  rw [shown]
  decide +kernel

end Diagnostic

end SourceDiagnostics
