/-
# What becomes of a failure

A request that fails prints nothing. Its fault is reported on standard error, behind
the word `error`, and the program ends with status one. A request that does not fail
ends with status zero and says nothing on standard error.

This does not hold of every request. Some end the program like a defect of its own: those
that meet settings of the wrong shape, those for which links lead in a circle where a path is
resolved, and those whose report or location holds a number that is too long to be printed.
The last two need links in the file tree, or a text longer than any that can be had. Which
files are looked at, and in which order, settles whether settings come into play: a location
is printed without a look at any, and a preview whose source cannot be loaded fails before it
looks.

A removed working directory, and arguments that are no texts, are no part of the file trees
and arguments that this is about.

The report shows the wording of the fault. To a terminal it is passed on as it is. To
anything else it is passed on without its control sequences; of all faults, only two can
have any: the one about a color mode in the path of its file, and the one about a text that
is no document in what the library says of it.
-/

import SourceDiagnostics.CommandLine
import SourceDiagnostics.Proofs.CommandLine.Message
import SourceDiagnostics.Proofs.Settings.Discovery
import SourceDiagnostics.Proofs.Text.ControlSequence

namespace SourceDiagnostics.CommandLine

/-! ## Settings -/

/-- The settings file that is looked at: the given one, or the nearest. -/
def consulted (workspace : Workspace) : Option Text → Except DiscoveryFault Path
  | some path => .ok (.ofText path)
  | none => workspace.findSettings workspace.directory

/-- A fault that counts as an absence of settings: the file that was found is gone
when it is read. -/
def Vanished (file : Option Text) (fault : Settings.Fault) : Prop :=
  file = none ∧ ∃ path, fault = .reading (.opening (.lookup .notFound path))

/-- Settings cannot be had because the search for their file fails, other than by
finding none, or because the file that is looked at has a fault. -/
theorem settingsInForce_eq_error_iff {workspace : Workspace} {file : Option Text} {fault : Fault} :
    (∃ log, settingsInForce workspace file = (log, .error fault)) ↔
      (∃ cause, consulted workspace file = .error cause ∧ cause ≠ .notFound ∧
        fault = .discovery cause) ∨
      ∃ path cause, consulted workspace file = .ok path ∧
        workspace.settings path = .error cause ∧ ¬ Vanished file cause ∧ fault = .settings cause := by
  cases file with
  | some text =>
      rw [settingsInForce, consulted]
      cases read : workspace.settings (.ofText text) with
      | error cause => simp [Except.mapError, read, Vanished, eq_comm]
      | ok settings => simp [Except.mapError, read]
  | none =>
      rw [settingsInForce, consulted]
      cases found : workspace.findSettings workspace.directory with
      | error cause => cases cause <;> simp [eq_comm]
      | ok path =>
          dsimp only
          split
          next read => simp [read, Vanished]
          next answer remains =>
            cases read : workspace.settings path with
            | error cause =>
                have stays : ¬ Vanished none cause := by
                  rintro ⟨_, text, rfl⟩
                  exact remains text read
                simp [Except.mapError, read, stays, eq_comm]
            | ok settings => simp [Except.mapError, read]

/-- Settings that are found are in force, or their fault is, unless the file is gone when it is
read. -/
theorem settingsInForce_of_present {workspace : Workspace} {found : Path}
    (nearest : workspace.findSettings workspace.directory = .ok found)
    (present : ∀ text, workspace.settings found ≠
      .error (.reading (.opening (.lookup .notFound text)))) :
    settingsInForce workspace none =
      ([.settingsFound found.text], (workspace.settings found).mapError .settings) := by
  rw [settingsInForce, nearest]
  dsimp only
  split
  next text gone => exact absurd gone (present text)
  next => rfl

private theorem isReported_settings_iff {fault : Settings.Fault} :
    (Fault.settings fault).isReported = false ↔
      fault.IsShape ∨ ∃ place, fault = .baseLost (.circle place) := by
  cases fault with
  | baseLost cause => cases cause <;> simp [Fault.isReported, Settings.Fault.IsShape]
  | _ => simp [Fault.isReported, Settings.Fault.IsShape]

private theorem isReported_discovery_iff {fault : DiscoveryFault} :
    (Fault.discovery fault).isReported = false ↔ ∃ place, fault = .start (.circle place) := by
  cases fault with
  | start cause => cases cause <;> simp [Fault.isReported]
  | _ => simp [Fault.isReported]

/-- A preview whose settings come from the given file, or from the nearest, takes them
from a document whose shape is wrong. -/
def ConsultsMisshapen (workspace : Workspace) (file : Option Text) : Prop :=
  ∃ path document, consulted workspace file = .ok path ∧ workspace.Holds path document ∧
    Settings.Misshapen document

/-- A preview takes its settings from such a document, or links lead in a circle: from the
base directory that its document names, or from the working directory where the search for
settings starts. -/
inductive MeetsDefect (workspace : Workspace) (file : Option Text) : Prop
  | misshapen (consults : ConsultsMisshapen workspace file)
  | base {path : Path} {document : Toml.Table} (consults : consulted workspace file = .ok path)
      (holds : workspace.Holds path document)
      (circle : Settings.LeadsInCircle workspace path document)
  | search {place : Text} (unnamed : file = none)
      (circle : workspace.resolve workspace.directory = .error (.circle place))

/-- These are the only settings whose fault is not reported. -/
theorem settingsInForce_unreported_iff {workspace : Workspace} {file : Option Text} :
    (∃ log fault, settingsInForce workspace file = (log, .error fault) ∧ fault.isReported = false) ↔
      MeetsDefect workspace file := by
  constructor
  · rintro ⟨log, fault, fails, silent⟩
    rcases settingsInForce_eq_error_iff.mp ⟨log, fails⟩ with
      ⟨cause, sought, _, rfl⟩ | ⟨path, cause, named, read, _, rfl⟩
    · obtain ⟨place, rfl⟩ := isReported_discovery_iff.mp silent
      cases file with
      | some path => cases sought
      | none => exact .search rfl (Workspace.findSettings_eq_start_iff.mp sought)
    · rcases isReported_settings_iff.mp silent with shape | ⟨place, rfl⟩
      · obtain ⟨document, holds, misshapen⟩ := Workspace.settings_isShape_iff.mp ⟨cause, read, shape⟩
        exact .misshapen ⟨path, document, named, holds, misshapen⟩
      · obtain ⟨document, holds, circle⟩ := Workspace.settings_circle_iff.mp ⟨place, read⟩
        exact .base named holds circle
  · intro meets
    have silent {path : Path} {cause : Settings.Fault} (named : consulted workspace file = .ok path)
        (read : workspace.settings path = .error cause)
        (quiet : cause.IsShape ∨ ∃ place, cause = .baseLost (.circle place)) :
        ∃ log fault, settingsInForce workspace file = (log, .error fault) ∧
          fault.isReported = false := by
      have stays : ¬ Vanished file cause := by
        rintro ⟨_, text, rfl⟩
        rcases quiet with ⟨kind, same | same⟩ | ⟨place, same⟩ <;> cases same
      obtain ⟨log, fails⟩ := settingsInForce_eq_error_iff.mpr
        (.inr ⟨path, cause, named, read, stays, rfl⟩)
      exact ⟨log, _, fails, isReported_settings_iff.mpr quiet⟩
    cases meets with
    | misshapen consults =>
        obtain ⟨path, document, named, holds, misshapen⟩ := consults
        obtain ⟨cause, read, shape⟩ :=
          Workspace.settings_isShape_iff.mpr ⟨document, holds, misshapen⟩
        exact silent named read (.inl shape)
    | base named holds circle =>
        obtain ⟨place, read⟩ := Workspace.settings_circle_iff.mpr ⟨_, holds, circle⟩
        exact silent named read (.inr ⟨place, rfl⟩)
    | @search place unnamed circle =>
        subst unnamed
        have sought : consulted workspace none = .error (.start (.circle place)) :=
          Workspace.findSettings_eq_start_iff.mpr circle
        have other : DiscoveryFault.start (.circle place) ≠ .notFound := by
          intro same
          cases same
        obtain ⟨log, fails⟩ := settingsInForce_eq_error_iff.mpr (.inl ⟨_, sought, other, rfl⟩)
        exact ⟨log, _, fails, rfl⟩

/-- Without links, only shapes matter. -/
theorem meetsDefect_iff_of_unlinked {workspace : Workspace} (unlinked : workspace.tree.links = [])
    {file : Option Text} : MeetsDefect workspace file ↔ ConsultsMisshapen workspace file := by
  refine ⟨fun meets => ?_, .misshapen⟩
  cases meets with
  | misshapen consults => exact consults
  | base _ _ circle =>
      obtain ⟨place, has⟩ := circle
      cases has with
      | baseLost _ _ _ lost => exact absurd lost (FileTree.resolve_ne_circle_of_unlinked unlinked _)
  | search _ circle => exact absurd circle (FileTree.resolve_ne_circle_of_unlinked unlinked _)

/-! ## Requests -/

theorem Preview.print_of_render {preview : Preview} {surroundings : Surroundings}
    {source : Source} {settings : Settings} {report : Text}
    (rendering : (preview.renderer surroundings settings).render surroundings.workspace.directory
      (preview.diagnostic source) = .ok report) (log : List LogEntry) :
    preview.print surroundings source log settings = .printed log
      (printedText surroundings.library (preview.renderer surroundings settings).color report) := by
  rw [print, rendering]

private theorem Outcome.ofFault_ne_printed {log other : List LogEntry} {fault : Fault} {text : Text} :
    Outcome.ofFault log fault ≠ .printed other text := by
  rw [ofFault]
  split <;> exact nofun

/-- Outcomes of faults differ if the faults do. -/
private theorem Outcome.eq_of_ofFault_eq {log other : List LogEntry} {fault cause : Fault}
    (same : Outcome.ofFault log fault = .ofFault other cause) : fault = cause := by
  rw [ofFault, ofFault] at same
  split at same <;> split at same <;> cases same <;> rfl

namespace Request

/-- A request fails because its source, which comes first, or its settings cannot be had, or
because a location that is to be shown cannot be printed. -/
inductive FailsWith (surroundings : Surroundings) : Request → Fault → Prop
  | source {preview : Preview} {cause : ReadFault}
      (loading : loadSource surroundings preview.file = .error cause) :
      FailsWith surroundings (.preview preview) (.source cause)
  | settings {preview : Preview} {source : Source} {log : List LogEntry} {fault : Fault}
      (loading : loadSource surroundings preview.file = .ok source)
      (finding : settingsInForce surroundings.workspace preview.settings = (log, .error fault)) :
      FailsWith surroundings (.preview preview) fault
  | report {preview : Preview} {source : Source} {log : List LogEntry} {settings : Settings}
      {cause : Text.NumeralFault} (loading : loadSource surroundings preview.file = .ok source)
      (finding : settingsInForce surroundings.workspace preview.settings = (log, .ok settings))
      (rendering : (preview.renderer surroundings settings).render
        surroundings.workspace.directory (preview.diagnostic source) = .error cause) :
      FailsWith surroundings (.preview preview) (.numeral cause)
  | location {file : Text} {offset : Int} {cause : ReadFault}
      (loading : loadSource surroundings file = .error cause) :
      FailsWith surroundings (.location file offset) (.source cause)
  | place {file : Text} {offset : Int} {source : Source} {cause : Text.NumeralFault}
      (loading : loadSource surroundings file = .ok source)
      (locating : (source.position offset).location surroundings.workspace.directory =
        .error cause) :
      FailsWith surroundings (.location file offset) (.numeral cause)

/-- A preview gets as far as its settings, and their shape is wrong. -/
inductive MeetsMisshapen (surroundings : Surroundings) : Request → Prop
  | intro {preview : Preview} {source : Source}
      (loading : loadSource surroundings preview.file = .ok source)
      (consults : ConsultsMisshapen surroundings.workspace preview.settings) :
      MeetsMisshapen surroundings (.preview preview)

/-- A request gets as far as settings whose fault is not reported, or as far as a location
that cannot be printed. -/
inductive Escapes (surroundings : Surroundings) : Request → Prop
  | settings {preview : Preview} {source : Source}
      (loading : loadSource surroundings preview.file = .ok source)
      (meets : MeetsDefect surroundings.workspace preview.settings) :
      Escapes surroundings (.preview preview)
  | report {preview : Preview} {source : Source} {log : List LogEntry} {settings : Settings}
      (loading : loadSource surroundings preview.file = .ok source)
      (finding : settingsInForce surroundings.workspace preview.settings = (log, .ok settings))
      (long : ¬ (preview.diagnostic source).Writable) : Escapes surroundings (.preview preview)
  | location {file : Text} {offset : Int} {source : Source}
      (loading : loadSource surroundings file = .ok source)
      (long : ¬ (source.position offset).Writable) :
      Escapes surroundings (.location file offset)

variable {surroundings : Surroundings} {preview : Preview}

/-- A preview whose source and settings can be had is printed, or its report cannot be. -/
theorem run_preview_of_ok {source : Source} {log : List LogEntry} {settings : Settings}
    (loading : loadSource surroundings preview.file = .ok source)
    (finding : settingsInForce surroundings.workspace preview.settings = (log, .ok settings)) :
    run surroundings (.preview preview) =
      preview.print surroundings source (.ofSource source :: log) settings := by
  rw [run, runPreview, loading]
  simp only [finding]

/-- A preview whose settings have a fault ends with it. -/
theorem run_preview_of_fault {source : Source} {log : List LogEntry} {fault : Fault}
    (loading : loadSource surroundings preview.file = .ok source)
    (finding : settingsInForce surroundings.workspace preview.settings = (log, .error fault)) :
    run surroundings (.preview preview) = .ofFault (.ofSource source :: log) fault := by
  rw [run, runPreview, loading]
  simp only [finding]

/-- A failure decides the outcome. -/
theorem FailsWith.exists_run_eq {request : Request} {fault : Fault}
    (fails : request.FailsWith surroundings fault) :
    ∃ log, request.run surroundings = .ofFault log fault := by
  cases fails with
  | source loading => exact ⟨[], by rw [run, runPreview, loading]⟩
  | settings loading finding => exact ⟨_, run_preview_of_fault loading finding⟩
  | report loading finding rendering =>
      exact ⟨_, by rw [run_preview_of_ok loading finding, Preview.print, rendering]⟩
  | location loading => exact ⟨[], by rw [run, runLocation, loading]⟩
  | @place _ _ source _ loading locating =>
      refine ⟨[.ofSource source], ?_⟩
      rw [run, runLocation, loading]
      simp only [locating]

private theorem printed_or_fails (surroundings : Surroundings) (request : Request) :
    (∃ log text, request.run surroundings = .printed log text) ∨
      ∃ fault, request.FailsWith surroundings fault := by
  cases request with
  | preview preview =>
      cases loading : loadSource surroundings preview.file with
      | error cause => exact .inr ⟨_, .source loading⟩
      | ok source =>
          rcases finding : settingsInForce surroundings.workspace preview.settings with
            ⟨log, fault | settings⟩
          · exact .inr ⟨_, .settings loading finding⟩
          · cases rendering : (preview.renderer surroundings settings).render
                surroundings.workspace.directory (preview.diagnostic source) with
            | error cause => exact .inr ⟨_, .report loading finding rendering⟩
            | ok report =>
                exact .inl ⟨_, _, (run_preview_of_ok loading finding).trans
                  (Preview.print_of_render rendering _)⟩
  | location file offset =>
      cases loading : loadSource surroundings file with
      | error cause => exact .inr ⟨_, .location loading⟩
      | ok source =>
          cases locating : (source.position offset).location surroundings.workspace.directory with
          | error cause => exact .inr ⟨_, .place loading locating⟩
          | ok told =>
              refine .inl ⟨[.ofSource source],
                printedText surroundings.library surroundings.terminal told, ?_⟩
              rw [run, runLocation, loading]
              simp only [locating]

/-- What is left of a request: a text, which it only prints when it does not fail, or a fault,
and it has no other. -/
inductive Leaves (surroundings : Surroundings) (request : Request) : Prop
  | text {log : List LogEntry} {text : Text} (printed : request.run surroundings = .printed log text)
      (sound : ∀ fault, ¬ request.FailsWith surroundings fault)
  | fault {log : List LogEntry} {fault : Fault}
      (failed : request.run surroundings = .ofFault log fault)
      (only : ∀ other, request.FailsWith surroundings other ↔ other = fault)

/-- A request is carried out, or it fails, and then nothing but its fault and the log
is left of it. -/
theorem leaves (surroundings : Surroundings) (request : Request) : Leaves surroundings request := by
  rcases printed_or_fails surroundings request with ⟨log, text, printed⟩ | ⟨fault, fails⟩
  · refine .text printed fun fault fails => ?_
    obtain ⟨_, failed⟩ := fails.exists_run_eq
    exact Outcome.ofFault_ne_printed (failed.symm.trans printed)
  · obtain ⟨log, failed⟩ := fails.exists_run_eq
    refine .fault failed fun other => ⟨fun another => ?_, fun same => same ▸ fails⟩
    obtain ⟨_, failed'⟩ := another.exists_run_eq
    exact Outcome.eq_of_ofFault_eq (failed'.symm.trans failed)

/-- A request fails without a report exactly if it escapes. -/
theorem exists_unreported_iff {request : Request} :
    (∃ fault, request.FailsWith surroundings fault ∧ fault.isReported = false) ↔
      request.Escapes surroundings := by
  constructor
  · rintro ⟨fault, fails, silent⟩
    cases fails with
    | source | location => cases silent
    | settings loading finding =>
        exact .settings loading (settingsInForce_unreported_iff.mp ⟨_, _, finding, silent⟩)
    | report loading finding rendering =>
        exact .report loading finding (Renderer.render_eq_error_iff.mp rendering)
    | place loading locating => exact .location loading (Position.location_eq_error_iff.mp locating)
  · intro escapes
    cases escapes with
    | settings loading meets =>
        obtain ⟨log, fault, finding, silent⟩ := settingsInForce_unreported_iff.mpr meets
        exact ⟨fault, .settings loading finding, silent⟩
    | report loading finding long =>
        exact ⟨.numeral .tooLong, .report loading finding (Renderer.render_eq_error_iff.mpr long), rfl⟩
    | location loading long =>
        exact ⟨.numeral .tooLong, .place loading (Position.location_eq_error_iff.mpr long), rfl⟩

/-- A fault ends the program exactly if the request escapes. -/
theorem run_escaped_iff {request : Request} :
    (∃ log fault, request.run surroundings = .escaped log fault) ↔
      request.Escapes surroundings := by
  rw [← exists_unreported_iff]
  cases leaves surroundings request with
  | text printed sound => simp [printed, sound]
  | @fault log fault failed only =>
      simp only [failed, only, Outcome.ofFault]
      cases said : fault.isReported <;> simp [said]

/-- A preview shows a location of its own only for the start. -/
theorem writable_diagnostic {source : Source}
    (short : source.code.length + 1 < 10 ^ Text.numeralLimit) (preview : Preview) :
    (preview.diagnostic source).Writable where
  start := by
    rw [Preview.diagnostic, Diagnostic.ofPlace, Preview.place]
    cases preview.stop <;> exact source.writable_position short _
  notes note among position placed := by
    obtain ⟨text, -, rfl⟩ := List.mem_map.mp among
    cases placed

/-- Where there are no links and no text is too long, only shapes matter. -/
theorem escapes_iff_of_unlinked (unlinked : surroundings.workspace.tree.links = [])
    (short : ∀ file source, loadSource surroundings file = .ok source →
      source.code.length + 1 < 10 ^ Text.numeralLimit) {request : Request} :
    request.Escapes surroundings ↔ request.MeetsMisshapen surroundings := by
  constructor
  · intro escapes
    cases escapes with
    | settings loading meets => exact .intro loading ((meetsDefect_iff_of_unlinked unlinked).mp meets)
    | report loading _ long => exact absurd (writable_diagnostic (short _ _ loading) _) long
    | location loading long =>
        exact absurd (Source.writable_position _ (short _ _ loading) _) long
  · rintro ⟨loading, consults⟩
    exact .settings loading (.misshapen consults)

end Request

/-! ## The report -/

/-- The line begins with the word, whatever becomes of the message. -/
theorem errorLine_eq (library : Library) (terminal : Bool) (message : Text) :
    errorLine library terminal message = "error: ".toList ++
      if terminal then message ++ ['\n'] else library.deleted.strip (message ++ ['\n']) := by
  rw [errorLine, List.append_assoc]
  cases terminal with
  | true => rfl
  | false => exact ControlSequence.strip_append_of_escape_not_mem (by decide) _

/-- A terminal gets the message as it is, and so does everybody if it holds no escape
character. -/
private theorem errorLine_of_escape_not_mem {library : Library} {terminal : Bool} {message : Text}
    (plain : terminal = false → '\x1b' ∉ message) :
    errorLine library terminal message = "error: ".toList ++ message ++ ['\n'] := by
  rw [errorLine_eq, List.append_assoc]
  cases terminal with
  | true => rfl
  | false =>
      have whole : '\x1b' ∉ message ++ ['\n'] := by
        rw [List.mem_append]
        exact fun escape => escape.elim (plain rfl) (by decide)
      exact congrArg _ (ControlSequence.strip_of_escape_not_mem whole)

/-- The wording of a fault is reported as it is, unless an escape character in the path
of its file, or in what a library says, is kept from something that is no terminal. -/
theorem errorLine_message {library : Library} {terminal : Bool} {fault : Fault}
    (plain : terminal = false → '\x1b' ∉ library.malformed ∧
      ∀ path value, fault = .settings (.color path value) → '\x1b' ∉ path) :
    errorLine library terminal (fault.message library) =
      "error: ".toList ++ fault.message library ++ ['\n'] := by
  refine errorLine_of_escape_not_mem fun elsewhere escape => ?_
  rcases Fault.of_mem_message (by decide) escape with ⟨-, worded⟩ | ⟨path, value, same, mem⟩
  · exact (plain elsewhere).1 worded
  · exact (plain elsewhere).2 path value same mem

/-- What comes of a request that the arguments ask for, without a log. The program ends
like a defect of its own exactly if the request gets as far as settings of the wrong shape,
links in a circle, or a location that cannot be printed; where there are no links and no text
is too long, exactly if it meets settings of the wrong shape. Otherwise it ends well and says
nothing on standard error, or it fails, prints nothing and reports its fault. The report holds
the wording of the fault as it is, except where an escape character stands in the path of a
settings file, or in what a library says, and standard error is no terminal. -/
theorem run_prints_or_reports (surroundings : Surroundings) (terminal : Bool)
    {arguments : List Text} {request : Request}
    (accepted : requestOfArguments surroundings.workspace arguments = .ok (false, request)) :
    let library := surroundings.library
    let outcome := (run surroundings arguments).2
    let said := outcome.standardError library (run surroundings arguments).1 terminal
    ((∃ log fault, outcome = .escaped log fault) ↔ request.Escapes surroundings) ∧
      (surroundings.workspace.tree.links = [] →
        (∀ file source, loadSource surroundings file = .ok source →
          source.code.length + 1 < 10 ^ Text.numeralLimit) →
        (request.Escapes surroundings ↔ request.MeetsMisshapen surroundings)) ∧
      (¬ request.Escapes surroundings →
        (outcome.exitStatus = 0 ∧ said = [] ∧ ∀ fault, ¬ request.FailsWith surroundings fault) ∨
        ∃ fault, request.FailsWith surroundings fault ∧ outcome.exitStatus = 1 ∧
          outcome.standardOutput = [] ∧ "error: ".toList <+: said ∧
          ((terminal = false → '\x1b' ∉ library.malformed ∧
              ∀ path value, fault = .settings (.color path value) → '\x1b' ∉ path) →
            said = "error: ".toList ++ fault.message library ++ ['\n'])) := by
  intro library outcome said
  have answer : run surroundings arguments = (false, request.run surroundings) := by
    rw [run, accepted]
  have outcome_eq : outcome = request.run surroundings := congrArg Prod.snd answer
  have said_eq : said = outcome.complaint library terminal := by
    simp only [said, answer, Outcome.standardError, outcome_eq]
    rfl
  refine ⟨outcome_eq ▸ Request.run_escaped_iff, fun unlinked short =>
    Request.escapes_iff_of_unlinked unlinked short, fun kept => ?_⟩
  cases Request.leaves surroundings request with
  | text printed sound =>
      left
      rw [said_eq, outcome_eq, printed]
      exact ⟨rfl, rfl, sound⟩
  | @fault log fault failed only =>
      right
      have fails : request.FailsWith surroundings fault := (only fault).mpr rfl
      have reported : fault.isReported = true := by
        by_contra silent
        exact kept (Request.exists_unreported_iff.mp ⟨fault, fails, Bool.not_eq_true _ ▸ silent⟩)
      rw [said_eq, outcome_eq, failed, Outcome.ofFault, if_pos reported]
      refine ⟨fault, fails, rfl, rfl, ?_, errorLine_message⟩
      change "error: ".toList <+: errorLine library terminal (fault.message library)
      rw [errorLine_eq]
      exact List.prefix_append _ _

/-- Input that is no text is reported with the place where it ceases to be one. -/
theorem run_prints_or_reports_undecodable :
    let surroundings : Surroundings := { input := [0xff] }
    let arguments := ["locate".toList, "-".toList, "0".toList]
    let fault : Fault := .source (.decoding ⟨0, 0xff, 0, .startByte⟩)
    requestOfArguments surroundings.workspace arguments = .ok (false, .location standardInput 0) ∧
      (run surroundings arguments).2.exitStatus = 1 ∧
      (run surroundings arguments).2.standardError {} false false =
        "error: ".toList ++ fault.message {} ++ ['\n'] := by
  intro surroundings arguments fault
  have loading : loadSource surroundings standardInput =
      .error (.decoding ⟨0, 0xff, 0, .startByte⟩) := by
    decide +kernel
  have kept : ¬ Request.Escapes surroundings (.location standardInput 0) := by
    intro escapes
    cases escapes with
    | location loading' => cases loading.symm.trans loading'
  have accepted : requestOfArguments surroundings.workspace arguments =
      .ok (false, .location standardInput 0) := rfl
  rcases (run_prints_or_reports surroundings false accepted).2.2 kept with
    ⟨_, _, sound⟩ | ⟨other, fails, status, _, _, said⟩
  · exact absurd (.location loading) (sound fault)
  · cases fails with
    | location loading' =>
        cases loading.symm.trans loading'
        exact ⟨accepted, status, said fun _ => ⟨by decide, fun _ _ same => by cases same⟩⟩
    | place loading' => cases loading.symm.trans loading'

/-- An array in the place of the table ends the program without a report, although the
arguments are in order. -/
theorem run_escapes_on_array :
    let document := "render = []\n".toList
    let surroundings : Surroundings :=
      { workspace := { tree := { files := [([Settings.fileName], Utf8.encode document)] } }
        input := [0x61] }
    let arguments := ["show".toList, "-".toList, "m".toList, "--start".toList, "0".toList]
    requestOfArguments surroundings.workspace arguments =
        .ok (false, .preview { file := standardInput, message := ['m'], start := 0 }) ∧
      (run surroundings arguments).2 =
        .escaped [.loaded "<stdin>".toList 1, .settingsFound "/locerr.toml".toList]
          (.settings (.noTable .array)) ∧
      ∀ terminal message, (run surroundings arguments).2.standardError {} false terminal ≠
        "error: ".toList ++ message ++ ['\n'] := by
  intro document surroundings arguments
  have accepted : requestOfArguments surroundings.workspace arguments =
      .ok (false, .preview { file := standardInput, message := ['m'], start := 0 }) := by
    decide +kernel
  have escapes : (run surroundings arguments).2 =
      .escaped [.loaded "<stdin>".toList 1, .settingsFound "/locerr.toml".toList]
        (.settings (.noTable .array)) := by
    decide +kernel
  refine ⟨accepted, escapes, fun terminal message same => ?_⟩
  rw [escapes] at same
  cases same

end SourceDiagnostics.CommandLine
