/-
# The command line

The program previews diagnostics. It reads its request from the arguments, loads
the source, finds the settings and prints the rendered diagnostic or the
location that was asked for.

Everything that it prints follows from the arguments, the file tree, the working
directory, standard input and whether standard output is a terminal; only the
report of a fault looks at whether standard error is one. The source
is loaded first, the settings are found after it, and only then is anything
rendered; the first of these steps that fails decides the outcome.

The options of a preview stand in place of what the settings say. A location is
printed without a look at any settings.
-/

import SourceDiagnostics.CommandLine.Outcome

namespace SourceDiagnostics.CommandLine

/-- What the program sees of the world. -/
structure Surroundings where
  workspace : Workspace := {}
  input : Bytes := []
  /-- Whether standard output is a terminal. -/
  terminal : Bool := false
  library : Library := {}

/-- The source that is asked for. -/
def loadSource (surroundings : Surroundings) (file : Text) : Except ReadFault Source :=
  if file = standardInput then
    match Utf8.decode surroundings.input with
    | .ok text => .ok (.ofInput text.unifyLineEnds)
    | .error fault => .error (.decoding fault)
  else surroundings.workspace.source file

/-- The settings before the options are applied, and what is logged about them:
those of the given file, or of the nearest, or the defaults when there is none.
A file that is gone when it is read counts as none. -/
def settingsInForce (workspace : Workspace) (file : Option Text) :
    List LogEntry × Except Fault Settings :=
  match file with
  | some path => ([], (workspace.settings (.ofText path)).mapError .settings)
  | none =>
    match workspace.findSettings workspace.directory with
    | .error .notFound => ([.noSettings], .ok {})
    | .error fault => ([], .error (.discovery fault))
    | .ok path =>
      match workspace.settings path with
      | .error (.reading (.opening (.lookup .notFound _))) =>
        ([.settingsFound path.text, .noSettings], .ok {})
      | answer => ([.settingsFound path.text], answer.mapError .settings)

/-- Settings with the options of a preview in place of what they set. -/
def Preview.override (preview : Preview) (settings : Settings) : Settings :=
  { settings with
    color := preview.color.getD settings.color
    emphasize := preview.emphasize.getD settings.emphasize }

/-- The place that a preview is about: a point, or a range when it has an end. -/
def Preview.place (preview : Preview) (source : Source) : Place :=
  match preview.stop with
  | none => .point (source.position preview.start)
  | some stop => .range (source.position preview.start) (source.position stop)

/-- The diagnostic that a preview asks for, its notes in the order in which they
were given. -/
def Preview.diagnostic (preview : Preview) (source : Source) : Diagnostic :=
  { Diagnostic.ofPlace (preview.place source) preview.message with
    notes := preview.notes.map fun note => ⟨note, none⟩ }

/-- What printing a text writes: the text with a newline at its end, and with its
control sequences only where they are wanted. -/
def printedText (library : Library) (sequences : Bool) (text : Text) : Text :=
  let whole := if text.endsWith ['\n'] then text else text ++ ['\n']
  if sequences then whole else library.deleted.strip whole

/-- The renderer of a preview under given settings. -/
def Preview.renderer (preview : Preview) (surroundings : Surroundings) (settings : Settings) :
    Renderer :=
  .ofSettings (preview.override settings) (some ⟨some surroundings.terminal⟩)

/-- Prints the diagnostic of a preview about a source under given settings. -/
def Preview.print (preview : Preview) (surroundings : Surroundings) (source : Source)
    (log : List LogEntry) (settings : Settings) : Outcome :=
  let renderer := preview.renderer surroundings settings
  match renderer.render surroundings.workspace.directory (preview.diagnostic source) with
  | .error fault => .ofFault log (.numeral fault)
  | .ok text => .printed log (printedText surroundings.library renderer.color text)

/-- Shows a message as an error. -/
def runPreview (surroundings : Surroundings) (preview : Preview) : Outcome :=
  match loadSource surroundings preview.file with
  | .error fault => .ofFault [] (.source fault)
  | .ok source =>
    match settingsInForce surroundings.workspace preview.settings with
    | (log, .error fault) => .ofFault (.ofSource source :: log) fault
    | (log, .ok settings) => preview.print surroundings source (.ofSource source :: log) settings

/-- Prints the location of an offset. -/
def runLocation (surroundings : Surroundings) (file : Text) (offset : Int) : Outcome :=
  match loadSource surroundings file with
  | .error fault => .ofFault [] (.source fault)
  | .ok source =>
    match (source.position offset).location surroundings.workspace.directory with
    | .error fault => .ofFault [.ofSource source] (.numeral fault)
    | .ok location =>
      .printed [.ofSource source] (printedText surroundings.library surroundings.terminal location)

/-- Does what is asked for. -/
def Request.run (surroundings : Surroundings) : Request → Outcome
  | .preview wanted => runPreview surroundings wanted
  | .location file offset => runLocation surroundings file offset

/-- Runs the program. The answer also says whether the log is to be shown. -/
def run (surroundings : Surroundings) (arguments : List Text) : Bool × Outcome :=
  match requestOfArguments surroundings.workspace arguments with
  | .error refusal => (false, .ofRefusal surroundings.library refusal)
  | .ok (verbose, request) => (verbose, request.run surroundings)

end SourceDiagnostics.CommandLine
