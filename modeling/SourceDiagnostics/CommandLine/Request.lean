/-
# What the command line asks for

There are two requests. A preview shows a message as an error located in a file;
a location is asked for by a file and an offset. Before the name of the request
stand the options that belong to the program as a whole.

Arguments are taken in a fixed order, and the first that is wrong decides: the
options must be known and used as they should, a call for help comes next, then
the values of the options in the order in which they were given, then the other
arguments, then options that are required, and last of all come arguments that
are too many. A file must be there before anything is done; a dash stands for
standard input where a source is wanted.
-/

import SourceDiagnostics.CommandLine.Help
import SourceDiagnostics.CommandLine.Options
import SourceDiagnostics.Settings
import SourceDiagnostics.Text.Numeral

namespace SourceDiagnostics.CommandLine

/-- Why arguments lead to no request: an explanation or the version is asked for instead, they
are wrong, or a path among them holds a NUL character. -/
inductive Refusal where
  | help (topic : Topic)
  | version
  | misuse (kind : Misuse)
  | embeddedNul
deriving DecidableEq, Repr

/-- Options of the program as a whole. -/
inductive ProgramOption where
  | verbose
  | version
  | help
deriving DecidableEq, Repr

/-- Options of a preview. -/
inductive PreviewOption where
  | start
  | stop
  | note
  | color
  | emphasis (on : Bool)
  | settings
  | help
deriving DecidableEq, Repr

/-- A message to be shown as an error. -/
structure Preview where
  file : Text
  message : Text
  start : Int
  /-- The offset where it ends, if it is about a range. -/
  stop : Option Int := none
  notes : List Text := []
  /-- A color mode in place of the one that is set. -/
  color : Option ColorMode := none
  emphasize : Option Bool := none
  /-- The settings file to be used in place of the nearest. -/
  settings : Option Text := none
deriving DecidableEq

/-- What the program is asked to do. -/
inductive Request where
  | preview (preview : Preview)
  | location (file : Text) (offset : Int)
deriving DecidableEq

/-- The options of the program as a whole. -/
def programOptions : Options ProgramOption where
  flags := [("--verbose".toList, .verbose), ("--version".toList, .version), ("--help".toList, .help)]
  letters := [('v', .verbose)]

/-- The options of a preview. -/
def previewOptions : Options PreviewOption where
  flags := [("--emphasize".toList, .emphasis true), ("--no-emphasize".toList, .emphasis false),
    ("--help".toList, .help)]
  valued := [("--start".toList, .start), ("--end".toList, .stop), ("--note".toList, .note),
    ("--color".toList, .color), ("--config".toList, .settings)]

/-- The options of a location: the call for help, of which nothing need be
known but that it was there. -/
def locationOptions : Options Unit where
  flags := [("--help".toList, ())]

/-- The name of standard input where a source is wanted. -/
def standardInput : Text := ['-']

/-- Refuses a path that leads to no file. -/
def checkFile (workspace : Workspace) (path : Text) : Except Refusal Unit :=
  if path.contains '\x00' then .error .embeddedNul
  else
    match workspace.entry? path with
    | some (.file _) => .ok ()
    | _ => .error (.misuse .badParameter)

/-- Refuses a source that is neither standard input nor a file. -/
def checkSource (workspace : Workspace) (path : Text) : Except Refusal Unit :=
  if path = standardInput then .ok () else checkFile workspace path

/-- A value that must be there. -/
def required {α : Type} : Option α → Except Refusal α
  | some value => .ok value
  | none => .error (.misuse .missingParameter)

/-- A value that must be of the kind that is wanted. -/
def proper {α : Type} : Option α → Except Refusal α
  | some value => .ok value
  | none => .error (.misuse .badParameter)

/-- Refuses arguments beyond those that a request takes. -/
def checkCount (count : Nat) (arguments : List Text) : Except Refusal Unit :=
  if count < arguments.length then .error (.misuse .extraArguments) else .ok ()

/-- The request with the value of an option taken in. -/
def Preview.take (workspace : Workspace) (found : Found PreviewOption) (preview : Preview)
    (option : PreviewOption) : Except Refusal Preview :=
  let value := (found.value? option).getD []
  match option with
  | .start => do return { preview with start := ← proper value.integer? }
  | .stop => do return { preview with stop := some (← proper value.integer?) }
  | .note => .ok { preview with notes := found.values .note }
  | .color => do return { preview with color := some (← proper (ColorMode.ofName? value)) }
  | .settings => do
    checkFile workspace value
    return { preview with settings := some value }
  | .emphasis _ | .help => .ok preview

/-- Whether the last of the options about emphasis turns it on. -/
def emphasisOf (found : Found PreviewOption) : Option Bool :=
  found.options.reverse.findSome? fun given =>
    match given.meaning with
    | .emphasis on => some on
    | _ => none

/-- The preview that arguments ask for. -/
def Preview.ofArguments (workspace : Workspace) (arguments : List Text) :
    Except Refusal Preview := do
  let found ← (previewOptions.find true arguments).mapError .misuse
  if found.has .help then throw (.help .preview)
  let blank : Preview := { file := [], message := [], start := 0, emphasize := emphasisOf found }
  let preview ← found.meanings.foldlM (Preview.take workspace found) blank
  let file ← required found.others[0]?
  checkSource workspace file
  let message ← required found.others[1]?
  let _ ← required (found.value? .start)
  checkCount 2 found.others
  return { preview with file := file, message := message }

/-- The location that arguments ask for. -/
def locationOfArguments (workspace : Workspace) (arguments : List Text) :
    Except Refusal Request := do
  let found ← (locationOptions.find true arguments).mapError .misuse
  if found.has () then throw (.help .location)
  let file ← required found.others[0]?
  checkSource workspace file
  let offset ← proper (← required found.others[1]?).integer?
  checkCount 2 found.others
  return .location file offset

/-- Refuses options of the program that ask for something else than a request.
The first of them decides what is answered. -/
def checkProgram (found : Found ProgramOption) : Except Refusal Unit :=
  match found.meanings.find? (· ≠ .verbose) with
  | some .help => .error (.help .program)
  | some .version => .error .version
  | _ => .ok ()

/-- The name of previews. -/
def previewName : Text := "show".toList

/-- The name of locations. -/
def locationName : Text := "locate".toList

/-- The request that arguments ask for, and whether it is to be logged. When
there is no request of the name, the arguments are looked at once more: what
stands there behind two dashes may have been meant as an option. -/
def requestOfArguments (workspace : Workspace) (arguments : List Text) :
    Except Refusal (Bool × Request) := do
  if arguments.isEmpty then throw (.misuse .noArguments)
  let found ← (programOptions.find false arguments).mapError .misuse
  checkProgram found
  let verbose := found.has .verbose
  match found.others with
  | [] => .error (.misuse .noCommand)
  | name :: rest =>
    if name = previewName then
      return (verbose, .preview (← Preview.ofArguments workspace rest))
    else if name = locationName then
      return (verbose, ← locationOfArguments workspace rest)
    else
      checkProgram (← (programOptions.find false (name :: rest)).mapError .misuse)
      .error (.misuse .unknownCommand)

end SourceDiagnostics.CommandLine
