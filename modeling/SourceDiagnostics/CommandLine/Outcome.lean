/-
# Outcomes

An outcome says what came of a command line; the exit status and the texts on
standard output and standard error are read off it.

A fault of reading, of text, or of what the settings say is reported on standard
error, and nothing is printed. That report keeps its control sequences on a
terminal only; the log keeps them everywhere. Some faults escape that report and end
the program like a defect of its own: a `render` entry that is no table, a base
directory that is no text, links that lead in a circle where a path is resolved, and a
line or a column whose numeral is too long to be printed.

The help pages, the complaints about misuse and about a text that is no document are
worded by libraries. The program passes them on as they are given.
-/

import SourceDiagnostics.CommandLine.Request
import SourceDiagnostics.Text.ControlSequence

namespace SourceDiagnostics.CommandLine

/-- What the libraries under the program contribute to what it writes: the words that
are theirs, and the control sequences that they delete on the way to anything but a
terminal. -/
structure Library where
  page : Topic → Text := fun _ => []
  complaint : Misuse → Text := fun _ => []
  /-- What is said about a settings file whose text is no document. -/
  malformed : Text := []
  deleted : ControlSequence := .general

/-- What is logged on request. -/
inductive LogEntry where
  | loaded (path : Text) (count : Nat)
  | settingsFound (path : Text)
  | noSettings
deriving DecidableEq, Repr

/-- The line of a log entry: the part of the program and what it says. -/
def LogEntry.line : LogEntry → Text
  | .loaded path count =>
    "locerr.source: loaded ".toList ++ path ++ " (".toList ++ Text.ofNat count ++ " chars)\n".toList
  | .settingsFound path => "locerr.config: using config ".toList ++ path ++ ['\n']
  | .noSettings => "locerr.cli: no config found, using defaults\n".toList

/-- Why a request fails. -/
inductive Fault where
  | source (fault : ReadFault)
  | discovery (fault : DiscoveryFault)
  | settings (fault : Settings.Fault)
  | numeral (fault : Text.NumeralFault)
deriving DecidableEq

/-- The wording of a fault. -/
def Fault.message (library : Library) : Fault → Text
  | .source fault => fault.message
  | .discovery fault => fault.message
  | .settings fault => fault.message library.malformed
  | .numeral fault => fault.message

/-- Whether a fault is reported to the user. -/
def Fault.isReported : Fault → Bool
  | .discovery (.start (.circle _)) => false
  | .settings (.noTable _) | .settings (.base _) | .settings (.baseLost (.circle _)) => false
  | .numeral _ => false
  | _ => true

/-- What came of the arguments. A fault is reported to the user, or it ends the program. -/
inductive Outcome where
  | printed (log : List LogEntry) (text : Text)
  | reported (log : List LogEntry) (fault : Fault)
  | escaped (log : List LogEntry) (fault : Fault)
  | help (page : Text)
  | version
  | misuse (kind : Misuse) (complaint : Text)
deriving DecidableEq

/-- The log entry about a source. -/
def LogEntry.ofSource (source : Source) : LogEntry := .loaded source.path source.code.length

/-- The outcome of a fault. -/
def Outcome.ofFault (log : List LogEntry) (fault : Fault) : Outcome :=
  if fault.isReported then .reported log fault else .escaped log fault

/-- The outcome of a refusal. -/
def Outcome.ofRefusal (library : Library) : Refusal → Outcome
  | .help topic => .help (library.page topic)
  | .version => .version
  | .misuse kind => .misuse kind (library.complaint kind)
  | .embeddedNul => .escaped [] (.source (.opening .embeddedNul))

/-- The line that reports a fault. Control sequences in it are passed on to a
terminal and to nothing else. -/
def errorLine (library : Library) (terminal : Bool) (message : Text) : Text :=
  let line := "error: ".toList ++ message ++ ['\n']
  if terminal then line else library.deleted.strip line

namespace Outcome

/-- The exit status of an outcome. -/
def exitStatus : Outcome → Nat
  | .printed _ _ | .help _ | .version => 0
  | .reported _ _ | .escaped _ _ => 1
  | .misuse _ _ => 2

/-- What standard output holds after an outcome. -/
def standardOutput : Outcome → Text
  | .printed _ text => text
  | .help page => page
  | .version => versionLine
  | .reported _ _ | .escaped _ _ | .misuse _ _ => []

/-- The log of an outcome. -/
def log : Outcome → List LogEntry
  | .printed log _ | .reported log _ | .escaped log _ => log
  | .help _ | .version | .misuse _ _ => []

/-- What an outcome adds behind the log on standard error, which may be a
terminal. -/
def complaint (library : Library) (terminal : Bool) : Outcome → Text
  | .reported _ fault => errorLine library terminal (fault.message library)
  | .escaped _ fault => fault.message library ++ ['\n']
  | .misuse _ complaint => complaint
  | .printed _ _ | .help _ | .version => []

/-- What standard error, which may be a terminal, holds after an outcome. -/
def standardError (library : Library) (verbose terminal : Bool) (outcome : Outcome) : Text :=
  (if verbose then outcome.log.flatMap LogEntry.line else []) ++ outcome.complaint library terminal

end Outcome

end SourceDiagnostics.CommandLine
