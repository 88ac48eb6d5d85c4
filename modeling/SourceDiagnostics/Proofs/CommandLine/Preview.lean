/-
# What a preview prints

A preview that succeeds prints the report that the library renders, with a newline at
its end. With color, the report is printed as it is, and so every message, every note
and every quoted line in it. Without color, it is printed without its control
sequences. The renderer has added none then, so those that go are parts of what the
report says: of a message, of a note, of a path or of a quoted line, or of one of these
and of what the layout puts behind it. A report in which none occurs is printed as it is.
Which sequences are deleted is the choice of a library, as long as none runs over the end of
a line.

The error that is reported is the one which a caller of the library would build from the
offsets and the messages.
-/

import Mathlib.Data.List.Basic
import SourceDiagnostics.Proofs.CommandLine.Outcome
import SourceDiagnostics.Proofs.Diagnostic.LineEnds
import SourceDiagnostics.Proofs.Diagnostic.Verbatim

namespace SourceDiagnostics

/-! ## Texts that end in a newline -/

namespace Text

/-- The text with a newline at its end. -/
def terminated (text : Text) : Text := if text.endsWith ['\n'] then text else text ++ ['\n']

end Text

namespace ControlSequence

variable {shape : ControlSequence} (bound : shape.LineBound)
include bound

/-- A newline is no part of a sequence, so it takes none away and makes none. -/
theorem strip_append_newline (text : Text) :
    shape.strip (text ++ ['\n']) = shape.strip text ++ ['\n'] := by
  have newline : shape.strip ['\n'] = ['\n'] := strip_of_escape_not_mem (by decide)
  rw [strip_append bound.distinct text (interrupts_cons bound.newline []), newline]

/-- A text is left as it is exactly if no sequence occurs in it, whether or not a
newline is added to it. -/
theorem strip_terminated_eq_self_iff (text : Text) :
    shape.strip text.terminated = text.terminated ↔ ¬ shape.Occurs text := by
  rw [← strip_eq_self_iff bound.distinct, Text.terminated]
  split
  · rfl
  · rw [strip_append_newline bound, List.append_left_inj]

end ControlSequence

namespace CommandLine

/-! ## The error of a preview -/

/-- The error that is told by the offsets and the messages of a preview. -/
def Preview.outline (preview : Preview) : Outline where
  start := preview.start
  stop := preview.stop
  message := preview.message
  notes := preview.notes.map fun note => (note, none)

private theorem Preview.diagnostic_outline (preview : Preview) (source : Source) :
    preview.outline.diagnostic source.position = preview.diagnostic source := by
  have place : preview.outline.place source.position = preview.place source := rfl
  have notes : preview.outline.notes.map (Outline.note source.position) =
      preview.notes.map fun note => ⟨note, none⟩ := List.map_map
  rw [Outline.diagnostic_eq, Preview.diagnostic, place, notes]
  rfl

/-- What is printed of a report is the report with a newline at its end, and without
color, what remains of that without its control sequences. -/
private theorem printedText_eq (library : Library) (color : Bool) (report : Text) :
    printedText library color report =
      if color then report.terminated else library.deleted.strip report.terminated := rfl

private theorem printedText_eq_terminated_iff {library : Library}
    (bound : library.deleted.LineBound)
    {color : Bool} {report : Text} :
    printedText library color report = report.terminated ↔
      color = true ∨ ¬ library.deleted.Occurs report := by
  cases color with
  | true => simp [printedText_eq]
  | false => simp [printedText_eq, ControlSequence.strip_terminated_eq_self_iff bound]

theorem exitStatus_ofFault (log : List LogEntry) (fault : Fault) :
    (Outcome.ofFault log fault).exitStatus = 1 := by
  rw [Outcome.ofFault]
  split <;> rfl

/-- A preview that succeeds has had its source and its settings, and its report. -/
theorem exists_of_exitStatus_eq_zero {surroundings : Surroundings} {preview : Preview}
    (succeeds : (Request.run surroundings (.preview preview)).exitStatus = 0) :
    ∃ source log settings report, loadSource surroundings preview.file = .ok source ∧
      settingsInForce surroundings.workspace preview.settings = (log, .ok settings) ∧
      (preview.renderer surroundings settings).render surroundings.workspace.directory
        (preview.diagnostic source) = .ok report := by
  cases Request.leaves surroundings (.preview preview) with
  | fault failed only =>
      rw [failed, exitStatus_ofFault] at succeeds
      cases succeeds
  | text printed sound =>
      cases loading : loadSource surroundings preview.file with
      | error cause => exact absurd (.source loading) (sound _)
      | ok source =>
          rcases finding : settingsInForce surroundings.workspace preview.settings with
            ⟨log, fault | settings⟩
          · exact absurd (.settings loading finding) (sound fault)
          · cases rendering : (preview.renderer surroundings settings).render
                surroundings.workspace.directory (preview.diagnostic source) with
            | error cause => exact absurd (.report loading finding rendering) (sound _)
            | ok report => exact ⟨source, log, settings, report, rfl, rfl, rendering⟩

/-- What a preview prints when it succeeds. Its source and its settings have been had,
and the report is the rendering of the error that its offsets and messages tell, for a
standard output that is a terminal or not. With color the report is printed as it is and
a newline at its end, and without color, what remains of that without its control
sequences. So the report is printed as it is exactly if there is color or no sequence
occurs in it. It holds the messages and the quoted lines as they are. -/
theorem run_prints_rendering (surroundings : Surroundings)
    (bound : surroundings.library.deleted.LineBound) {arguments : List Text}
    {verbose : Bool} {preview : Preview}
    (accepted : requestOfArguments surroundings.workspace arguments = .ok (verbose, .preview preview))
    (succeeds : (run surroundings arguments).2.exitStatus = 0) :
    ∃ source log settings report,
      loadSource surroundings preview.file = .ok source ∧
      settingsInForce surroundings.workspace preview.settings = (log, .ok settings) ∧
      let renderer :=
        Renderer.ofSettings (preview.override settings) (some ⟨some surroundings.terminal⟩)
      let error := preview.outline.diagnostic source.position
      let deleted := surroundings.library.deleted
      let printed := (run surroundings arguments).2.standardOutput
      renderer.render surroundings.workspace.directory error = .ok report ∧
        (renderer.color = true → printed = report.terminated) ∧
        (renderer.color = false → printed = deleted.strip report.terminated) ∧
        (printed = report.terminated ↔ renderer.color = true ∨ ¬ deleted.Occurs report) ∧
        (∀ message ∈ error.messages, message <:+: report) ∧
        ∀ line ∈ error.excerpt, line.indent <:+: report ∧ line.code <:+: report := by
  have answer : (run surroundings arguments).2 = Request.run surroundings (.preview preview) := by
    rw [run, accepted]
  rw [answer] at succeeds
  obtain ⟨source, log, settings, report, loading, finding, rendering⟩ :=
    exists_of_exitStatus_eq_zero succeeds
  refine ⟨source, log, settings, report, loading, finding, ?_⟩
  intro renderer error deleted printed
  have rendered : renderer.render surroundings.workspace.directory error = .ok report := by
    dsimp only [error]
    rw [preview.diagnostic_outline source]
    exact rendering
  have printed_eq : printed = printedText surroundings.library renderer.color report := calc
    printed = (Request.run surroundings (.preview preview)).standardOutput :=
      congrArg Outcome.standardOutput answer
    _ = (preview.print surroundings source (.ofSource source :: log) settings).standardOutput :=
      congrArg Outcome.standardOutput (Request.run_preview_of_ok loading finding)
    _ = printedText surroundings.library renderer.color report :=
      congrArg Outcome.standardOutput (Preview.print_of_render rendering _)
  rw [printed_eq]
  refine ⟨rendered, fun colored => ?_, fun plain => ?_, printedText_eq_terminated_iff bound,
    Renderer.infix_render rendered⟩
  · rw [printedText_eq, if_pos colored]
  · rw [printedText_eq, if_neg (Bool.eq_false_iff.mp plain)]

/-- On a terminal, a sequence in standard input is printed with the line that holds it, whichever
of the two shapes is deleted elsewhere. -/
theorem run_prints_rendering_on_terminal :
    let code := "\x1b[31mred".toList
    let surroundings (deleted : ControlSequence) : Surroundings :=
      { input := Utf8.encode code, terminal := true, library := { deleted := deleted } }
    let arguments := ["show".toList, "-".toList, "m".toList, "--start".toList, "0".toList]
    let preview : Preview := { file := standardInput, message := ['m'], start := 0 }
    ∀ deleted ∈ [ControlSequence.general, ControlSequence.lettered],
      requestOfArguments (surroundings deleted).workspace arguments =
          .ok (false, .preview preview) ∧
        (run (surroundings deleted) arguments).2.exitStatus = 0 ∧
        ∃ report : Text,
          (run (surroundings deleted) arguments).2.standardOutput = report.terminated ∧
            code <:+: report := by
  intro code surroundings arguments preview
  have runs : ∀ deleted ∈ [ControlSequence.general, ControlSequence.lettered],
      requestOfArguments (surroundings deleted).workspace arguments =
          .ok (false, .preview preview) ∧
        (run (surroundings deleted) arguments).2.exitStatus = 0 ∧
        loadSource (surroundings deleted) standardInput = .ok (.ofInput code) := by
    decide +kernel
  intro deleted either
  obtain ⟨accepted, succeeds, input⟩ := runs deleted either
  have bound : deleted.LineBound := by
    rcases List.mem_pair.mp either with rfl | rfl
    · exact ControlSequence.general_lineBound
    · exact ControlSequence.lettered_lineBound
  have defaults : settingsInForce (surroundings deleted).workspace none =
      ([.noSettings], .ok {}) := by
    dsimp only [surroundings]
    decide +kernel
  have excerpt : (preview.outline.diagnostic (Source.ofInput code).position).excerpt =
      [⟨[], code⟩] := by
    decide +kernel
  obtain ⟨source, log, settings, report, loading, finding, _, colored, _, _, _, quoted⟩ :=
    run_prints_rendering (surroundings deleted) bound accepted succeeds
  cases input.symm.trans loading
  cases defaults.symm.trans finding
  refine ⟨accepted, succeeds, report, colored rfl, ?_⟩
  exact (quoted ⟨[], code⟩ (excerpt ▸ List.mem_singleton_self _)).2

/-- Elsewhere it is missing from what is printed, though the report quotes it, whichever of the
two shapes is deleted. -/
theorem run_drops_sequence :
    let code := "\x1b[31mred".toList
    let surroundings (deleted : ControlSequence) : Surroundings :=
      { input := Utf8.encode code, library := { deleted := deleted } }
    let arguments := ["show".toList, "-".toList, "m".toList, "--start".toList, "0".toList]
    let preview : Preview := { file := standardInput, message := ['m'], start := 0 }
    (Renderer.ofSettings {} (some ⟨some false⟩)).render .top
          (preview.outline.diagnostic (Source.ofInput code).position) =
        .ok "Error: m (at <stdin>:1:1)\n\n> \x1b[31mred\n\n".toList ∧
      ∀ deleted ∈ [ControlSequence.general, ControlSequence.lettered],
        requestOfArguments (surroundings deleted).workspace arguments =
            .ok (false, .preview preview) ∧
          (run (surroundings deleted) arguments).2.exitStatus = 0 ∧
          (run (surroundings deleted) arguments).2.standardOutput =
            "Error: m (at <stdin>:1:1)\n\n> red\n\n".toList := by
  decide +kernel

end CommandLine

end SourceDiagnostics
