/-
# Reports that are the same everywhere

Under settings that choose a base directory, a report about a file that is named from the
root does not depend on the working directory. The settings are the same when their file
is named from the root too, the source is the same, and locations show its path seen from
the base.

The same holds of a preview, of what it prints and of the status it ends with. Its arguments
are read in the working directory as far as they name files: the source, and the settings
file when one is named. A preview that names none takes the nearest settings, and these
choose the base.
-/

import SourceDiagnostics.Proofs.CommandLine.Outcome
import SourceDiagnostics.Proofs.Diagnostic.LineEnds
import SourceDiagnostics.Proofs.Settings.Base

namespace SourceDiagnostics

namespace CommandLine

variable (tree : FileTree) {path : Text}

/-! ## Arguments -/

private theorem checkFile_of_startsWith (rooted : path.startsWith ['/'] = true)
    (first second : Path) :
    checkFile ⟨tree, first⟩ path = checkFile ⟨tree, second⟩ path := by
  rw [checkFile, checkFile, Workspace.entry?, Workspace.entry?,
    tree.lookup?_of_startsWith rooted first.names second.names]

private theorem checkSource_of_startsWith (rooted : path.startsWith ['/'] = true)
    (first second : Path) :
    checkSource ⟨tree, first⟩ path = checkSource ⟨tree, second⟩ path := by
  rw [checkSource, checkSource, checkFile_of_startsWith tree rooted first second]

namespace Preview

variable {found : Found PreviewOption}

/-- Only the name of a settings file is looked up when an option is taken in. -/
private theorem take_of_ne_settings {option : PreviewOption} (other : option ≠ .settings)
    (first second : Workspace) (preview : Preview) :
    take first found preview option = take second found preview option := by
  cases option with
  | settings => exact absurd rfl other
  | _ => rfl

private theorem settings_of_take {workspace : Workspace} {option : PreviewOption}
    {preview after : Preview}
    (other : option ≠ .settings) (taken : take workspace found preview option = .ok after) :
    after.settings = preview.settings := by
  cases option with
  | settings => exact absurd rfl other
  | start | stop | color =>
      obtain ⟨value, -, same⟩ := bind_eq_ok_iff.mp taken
      rw [← Except.ok.inj same]
  | note | emphasis | help => rw [← Except.ok.inj taken]

private theorem foldlM_take_of_not_mem {options : List PreviewOption} (free : .settings ∉ options)
    (first second : Workspace) (preview : Preview) :
    options.foldlM (take first found) preview = options.foldlM (take second found) preview := by
  induction options generalizing preview with
  | nil => rfl
  | cons option options ih =>
      obtain ⟨other, free⟩ := not_or.mp (fun either => free (List.mem_cons.mpr either))
      rw [List.foldlM_cons, List.foldlM_cons, take_of_ne_settings (Ne.symm other) first second]
      exact bind_congr (ih free)

private theorem settings_of_foldlM_take {workspace : Workspace} {options : List PreviewOption}
    {preview after : Preview} (free : .settings ∉ options)
    (taken : options.foldlM (take workspace found) preview = .ok after) :
    after.settings = preview.settings := by
  induction options generalizing preview with
  | nil => rw [← Except.ok.inj taken]
  | cons option options ih =>
      obtain ⟨other, free⟩ := not_or.mp (fun either => free (List.mem_cons.mpr either))
      rw [List.foldlM_cons] at taken
      obtain ⟨next, step, rest⟩ := bind_eq_ok_iff.mp taken
      exact (ih free rest).trans (settings_of_take (Ne.symm other) step)

end Preview

/-- Arguments that ask for a preview of `file` under the settings that are found: behind
the options of the program and the name of previews stand options of a preview, none of
which names a settings file, and of the other arguments `file` is the first. -/
inductive Previews : List Text → Text → Prop
  | intro {arguments rest : List Text} {file : Text} {program : Found ProgramOption}
      {found : Found PreviewOption} (outer : programOptions.find false arguments = .ok program)
      (name : program.others = previewName :: rest)
      (inner : previewOptions.find true rest = .ok found) (free : .settings ∉ found.meanings)
      (named : found.others[0]? = some file) : Previews arguments file

section

variable {rest : List Text} {found : Found PreviewOption} {file : Text}

/-- Once the options are found and the file is named, these are the steps that remain. -/
theorem Preview.ofArguments_of_find (workspace : Workspace)
    (inner : previewOptions.find true rest = .ok found) (named : found.others[0]? = some file) :
    Preview.ofArguments workspace rest =
      if found.has .help then .error (.help .preview)
      else do
        let preview ← found.meanings.foldlM (Preview.take workspace found)
          { file := [], message := [], start := 0, emphasize := emphasisOf found }
        checkSource workspace file
        let message ← required found.others[1]?
        let _ ← required (found.value? .start)
        checkCount 2 found.others
        return { preview with file := file, message := message } := by
  have there : required found.others[0]? = .ok file := by rw [named]; rfl
  rw [Preview.ofArguments, inner]
  change (if found.has .help = true then _ else _) = _
  split
  next => rfl
  next => simp only [there]; rfl

private theorem Preview.ofArguments_of_startsWith
    (inner : previewOptions.find true rest = .ok found)
    (free : .settings ∉ found.meanings) (named : found.others[0]? = some file)
    (rooted : file.startsWith ['/'] = true) (first second : Path) :
    Preview.ofArguments ⟨tree, first⟩ rest = Preview.ofArguments ⟨tree, second⟩ rest := by
  rw [ofArguments_of_find _ inner named, ofArguments_of_find _ inner named,
    checkSource_of_startsWith tree rooted first second,
    foldlM_take_of_not_mem free ⟨tree, first⟩ ⟨tree, second⟩]

private theorem Preview.of_ofArguments_eq_ok {workspace : Workspace} {preview : Preview}
    (inner : previewOptions.find true rest = .ok found) (free : .settings ∉ found.meanings)
    (named : found.others[0]? = some file)
    (accepted : Preview.ofArguments workspace rest = .ok preview) :
    preview.file = file ∧ preview.settings = none := by
  rw [ofArguments_of_find workspace inner named] at accepted
  split at accepted
  next => cases accepted
  next =>
    obtain ⟨before, taken, accepted⟩ := bind_eq_ok_iff.mp accepted
    obtain ⟨_, -, accepted⟩ := bind_eq_ok_iff.mp accepted
    obtain ⟨message, -, accepted⟩ := bind_eq_ok_iff.mp accepted
    obtain ⟨_, -, accepted⟩ := bind_eq_ok_iff.mp accepted
    obtain ⟨_, -, accepted⟩ := bind_eq_ok_iff.mp accepted
    rw [← Except.ok.inj accepted]
    exact ⟨rfl, settings_of_foldlM_take free taken⟩

theorem requestOfArguments_of_find (workspace : Workspace) {arguments : List Text}
    {program : Found ProgramOption} (outer : programOptions.find false arguments = .ok program)
    (name : program.others = previewName :: rest) :
    requestOfArguments workspace arguments =
      if arguments.isEmpty then .error (.misuse .noArguments)
      else do
        checkProgram program
        return (program.has .verbose, .preview (← Preview.ofArguments workspace rest)) := by
  rw [requestOfArguments, outer]
  split
  next => rfl
  next =>
    change (checkProgram program >>= fun _ => _) = _
    simp only [name]
    rfl

end

section

variable {arguments : List Text} {file : Text}

/-- Arguments that name a file from the root ask for the same in every directory. -/
theorem Previews.requestOfArguments_congr (asks : Previews arguments file)
    (rooted : file.startsWith ['/'] = true) (first second : Path) :
    requestOfArguments ⟨tree, first⟩ arguments = requestOfArguments ⟨tree, second⟩ arguments := by
  obtain ⟨outer, name, inner, free, named⟩ := asks
  rw [requestOfArguments_of_find _ outer name, requestOfArguments_of_find _ outer name,
    Preview.ofArguments_of_startsWith tree inner free named rooted first second]

/-- What they ask for, if anything, is a preview of that file under the settings that are
found. -/
theorem Previews.exists_preview (asks : Previews arguments file) {workspace : Workspace}
    {verbose : Bool} {request : Request}
    (accepted : requestOfArguments workspace arguments = .ok (verbose, request)) :
    ∃ preview : Preview, request = .preview preview ∧ preview.file = file ∧
      preview.settings = none := by
  obtain ⟨outer, name, inner, free, named⟩ := asks
  rw [requestOfArguments_of_find _ outer name] at accepted
  split at accepted
  next => cases accepted
  next =>
    obtain ⟨_, -, accepted⟩ := bind_eq_ok_iff.mp accepted
    obtain ⟨preview, read, accepted⟩ := bind_eq_ok_iff.mp accepted
    cases accepted
    exact ⟨preview, rfl, Preview.of_ofArguments_eq_ok inner free named read⟩

end

/-! ## Runs -/

/-- Settings that are found where a document is held are those of the document, or its
fault. -/
theorem settingsInForce_of_holds {workspace : Workspace} {found : Path} {document : Toml.Table}
    (nearest : workspace.findSettings workspace.directory = .ok found)
    (holds : workspace.Holds found document) :
    settingsInForce workspace none =
      ([.settingsFound found.text], (workspace.settings found).mapError .settings) := by
  refine settingsInForce_of_present nearest fun text gone => ?_
  -- A file that is gone holds nothing.
  obtain ⟨text, had, -⟩ := holds
  rcases Workspace.settings_eq_error_iff.mp gone with
    ⟨cause, failed, -⟩ | ⟨_, _, _, _, same⟩ | ⟨_, _, has⟩
  · cases had.symm.trans failed
  · cases same
  · cases has

/-- From two working directories the same settings file is found, and what it holds names
a base directory. -/
structure ShareBase (first second found : Path) : Prop where
  standing : first.isAbsolute = true
  fromFirst : (⟨tree, first⟩ : Workspace).findSettings first = .ok found
  fromSecond : (⟨tree, second⟩ : Workspace).findSettings second = .ok found
  names : (⟨tree, first⟩ : Workspace).NamesBase found

namespace ShareBase

variable {tree : FileTree} {first second found : Path} (share : ShareBase tree first second found)
include share

/-- The same settings are in force. -/
theorem settingsInForce_congr :
    settingsInForce ⟨tree, first⟩ none = settingsInForce ⟨tree, second⟩ none := by
  obtain ⟨document, holds, -⟩ := share.names
  have rooted : found.isAbsolute = true :=
    Workspace.isAbsolute_of_findSettings share.standing share.fromFirst
  have holds' : (⟨tree, second⟩ : Workspace).Holds found document := by
    rw [← Workspace.holds_of_isAbsolute tree rooted first second]
    exact holds
  rw [settingsInForce_of_holds share.fromFirst holds, settingsInForce_of_holds share.fromSecond holds',
    Workspace.settings_of_isAbsolute tree rooted first second]

/-- If there are any, they have a base. -/
theorem exists_base {log : List LogEntry} {settings : Settings}
    (finding : settingsInForce ⟨tree, first⟩ none = (log, .ok settings)) :
    ∃ base, settings.base = some base := by
  obtain ⟨document, holds, -⟩ := share.names
  rw [settingsInForce_of_holds share.fromFirst holds] at finding
  cases read : (⟨tree, first⟩ : Workspace).settings found with
  | error fault =>
      rw [read] at finding
      cases finding
  | ok settings =>
      rw [read] at finding
      cases finding
      exact Workspace.exists_base_of_settings share.names read

/-- A preview of a file that is named from the root comes out the same. -/
theorem runPreview_congr {preview : Preview} (rooted : preview.file.startsWith ['/'] = true)
    (free : preview.settings = none) (input : Bytes) (terminal : Bool) (library : Library) :
    runPreview ⟨⟨tree, first⟩, input, terminal, library⟩ preview =
      runPreview ⟨⟨tree, second⟩, input, terminal, library⟩ preview := by
  have loaded : loadSource ⟨⟨tree, first⟩, input, terminal, library⟩ preview.file =
      loadSource ⟨⟨tree, second⟩, input, terminal, library⟩ preview.file := by
    rw [loadSource, loadSource, Workspace.source_of_startsWith tree rooted first second]
  rw [runPreview, runPreview, free, loaded, ← share.settingsInForce_congr]
  cases loadSource ⟨⟨tree, second⟩, input, terminal, library⟩ preview.file with
  | error cause => rfl
  | ok source =>
      rcases finding : settingsInForce ⟨tree, first⟩ none with ⟨log, fault | settings⟩
      · rfl
      · obtain ⟨base, chosen⟩ := share.exists_base finding
        have same (renderer : Renderer) (override : renderer.base = (preview.override settings).base) :
            renderer.render first (preview.diagnostic source) =
              renderer.render second (preview.diagnostic source) :=
          Renderer.render_of_base (override.trans chosen) first second _
        simp only [Preview.print, Preview.renderer]
        rw [same _ rfl]

/-- A run that asks for such a preview comes out the same, or its arguments are refused for
the same reason. -/
theorem run_congr {arguments : List Text} {file : Text} (asks : Previews arguments file)
    (rooted : file.startsWith ['/'] = true) (input : Bytes) (terminal : Bool) (library : Library) :
    run ⟨⟨tree, first⟩, input, terminal, library⟩ arguments =
      run ⟨⟨tree, second⟩, input, terminal, library⟩ arguments := by
  have same := asks.requestOfArguments_congr tree rooted first second
  rw [run, run, ← same]
  rcases accepted : requestOfArguments ⟨tree, first⟩ arguments with refusal | ⟨verbose, request⟩
  · rfl
  · obtain ⟨preview, rfl, named, free⟩ := asks.exists_preview accepted
    rw [← named] at rooted
    exact congrArg (Prod.mk verbose) (share.runPreview_congr rooted free input terminal library)

end ShareBase

/-- Reports under settings with a base directory do not depend on where the tool is run.
Settings and a source that are named from the root and can be had in one directory are
had in another, and the renderer for any stream writes the same text for any error about
that source. A preview of a file that is named from the root prints the same and ends with
the same status in both directories, when the same settings file is found from both. -/
theorem reports_same_everywhere (tree : FileTree) (first second : Path) :
    (∀ (path : Path) (file : Text) (settings : Settings) (source : Source),
      path.isAbsolute = true → file.startsWith ['/'] = true →
      (⟨tree, first⟩ : Workspace).NamesBase path →
      (⟨tree, first⟩ : Workspace).settings path = .ok settings →
      (⟨tree, first⟩ : Workspace).source file = .ok source →
        (⟨tree, second⟩ : Workspace).settings path = .ok settings ∧
        (⟨tree, second⟩ : Workspace).source file = .ok source ∧
        ∀ (stream : Option Stream) (outline : Outline),
          let renderer := Renderer.ofSettings settings stream
          let error := outline.diagnostic source.position
          renderer.render first error = renderer.render second error) ∧
    ∀ (arguments : List Text) (file : Text) (found : Path),
      Previews arguments file → file.startsWith ['/'] = true → ShareBase tree first second found →
      ∀ (input : Bytes) (terminal : Bool) (library : Library),
        let outcome (directory : Path) :=
          (run ⟨⟨tree, directory⟩, input, terminal, library⟩ arguments).2
        (outcome first).standardOutput = (outcome second).standardOutput ∧
          (outcome first).exitStatus = (outcome second).exitStatus := by
  constructor
  · intro path file settings source settled rooted names read loaded
    obtain ⟨base, chosen⟩ := Workspace.exists_base_of_settings names read
    refine ⟨?_, ?_, fun stream outline => ?_⟩
    · rw [← Workspace.settings_of_isAbsolute tree settled first second]
      exact read
    · rw [← Workspace.source_of_startsWith tree rooted first second]
      exact loaded
    · intro renderer error
      exact Renderer.render_of_base chosen first second error
  · intro arguments file found asks rooted share input terminal library outcome
    have same : outcome first = outcome second :=
      congrArg Prod.snd (share.run_congr asks rooted input terminal library)
    rw [same]
    exact ⟨rfl, rfl⟩

/-- From the directory that the settings name and from one below it, a source is shown in
the same way. -/
theorem reports_same_everywhere_below :
    let top : Path.Name := ⟨['p'], by decide⟩
    let below : Path.Name := ⟨['q'], by decide⟩
    let name : Path.Name := ⟨['a'], by decide⟩
    let document := "render.base_dir = '.'\n".toList
    let tree : FileTree :=
      { files := [([top, Settings.fileName], Utf8.encode document), ([top, name], [0x78])]
        directories := [[top, below]] }
    let first : Path := ⟨.single, [top]⟩
    let second : Path := ⟨.single, [top, below]⟩
    let settings : Settings := { base := some first }
    let source : Source := ⟨"/p/a".toList, true, ['x']⟩
    let error := ({ start := 0, message := ['m'] } : Outline).diagnostic source.position
    let arguments := ["show".toList, "/p/a".toList, "m".toList, "--start".toList, "0".toList]
    let report := "Error: m (at a:1:1)\n\n> x\n\n".toList
    (⟨tree, second⟩ : Workspace).settings ⟨.single, [top, Settings.fileName]⟩ = .ok settings ∧
      (Renderer.ofSettings settings none).render second error = .ok report ∧
      (run ⟨⟨tree, second⟩, [], false, {}⟩ arguments).2.standardOutput = report ∧
      source.displayPath second = "/p/a".toList := by
  intro top below name document tree first second settings source error arguments report
  let path : Path := ⟨.single, [top, Settings.fileName]⟩
  let table : Toml.Table := [(Settings.baseKey, .text ['.'])]
  let preview : Preview := { file := "/p/a".toList, message := ['m'], start := 0 }
  have had : (⟨tree, first⟩ : Workspace).text path.text = .ok document := by decide +kernel
  have parsed : Toml.document document = .ok [(Settings.tableKey, .table table)] := by
    decide +kernel
  have names : (⟨tree, first⟩ : Workspace).NamesBase path :=
    ⟨_, ⟨document, had, parsed⟩, table, .text ['.'], rfl, rfl⟩
  have read : (⟨tree, first⟩ : Workspace).settings path = .ok settings := by
    rw [Workspace.settings, had]
    dsimp only
    rw [parsed]
    rfl
  have loaded : (⟨tree, first⟩ : Workspace).source "/p/a".toList = .ok source := by
    decide +kernel
  have share : ShareBase tree first second path :=
    ⟨rfl, by decide +kernel, by decide +kernel, names⟩
  have asks : Previews arguments "/p/a".toList := by
    have outer : programOptions.find false arguments = .ok ⟨[], arguments⟩ := rfl
    have inner : previewOptions.find true arguments.tail =
        .ok ⟨[⟨.start, some ['0']⟩], ["/p/a".toList, ['m']]⟩ := by
      decide +kernel
    exact .intro outer rfl inner (by decide) rfl
  have accepted : requestOfArguments ⟨tree, first⟩ arguments = .ok (false, .preview preview) := by
    decide +kernel
  have finding : settingsInForce ⟨tree, first⟩ none = ([.settingsFound path.text], .ok settings) := by
    rw [settingsInForce_of_holds share.fromFirst ⟨document, had, parsed⟩, read]
    rfl
  have loading : loadSource ⟨⟨tree, first⟩, [], false, {}⟩ preview.file = .ok source := loaded
  have printed : (run ⟨⟨tree, first⟩, [], false, {}⟩ arguments).2.standardOutput = report := calc
    (run ⟨⟨tree, first⟩, [], false, {}⟩ arguments).2.standardOutput =
        (Request.run ⟨⟨tree, first⟩, [], false, {}⟩ (.preview preview)).standardOutput := by
      rw [run, accepted]
    _ = (preview.print ⟨⟨tree, first⟩, [], false, {}⟩ source _ settings).standardOutput :=
      congrArg Outcome.standardOutput (Request.run_preview_of_ok loading finding)
    _ = report := by decide +kernel
  obtain ⟨library, program⟩ := reports_same_everywhere tree first second
  obtain ⟨read', _, rendered⟩ := library path "/p/a".toList settings source rfl rfl names read loaded
  refine ⟨read', ?_, ?_, by decide +kernel⟩
  · calc
      (Renderer.ofSettings settings none).render second error =
          (Renderer.ofSettings settings none).render first error := (rendered none _).symm
      _ = .ok report := by decide +kernel
  · rw [← (program arguments _ path asks rfl share [] false {}).1]
    exact printed

end CommandLine

end SourceDiagnostics
