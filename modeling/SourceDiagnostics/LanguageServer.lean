/-
# Diagnostics for editors

Editors speak of lines and characters counted from zero, in numbers of bounded
size. Converting a position takes one off each number, never going below zero,
and refuses a number beyond the bound.

A note that points into a source becomes related information at that place; all
other notes are appended to the message, a line each. A note whose position has
no source is among the latter, so its numbers are never converted. When no note
points into a source, related information is absent rather than empty.

When several numbers are too great, the fault names the first of them: the
notes come before the start of the diagnostic and the start before its end, and
in each position the line comes before the character.
-/

import SourceDiagnostics.Diagnostic
import SourceDiagnostics.LanguageServer.Uri

namespace SourceDiagnostics.LanguageServer

/-- A point in a document, counted from zero. -/
structure Point where
  line : Nat
  character : Nat
deriving DecidableEq, Repr

/-- The part of a document from one point up to another. -/
structure Range where
  start : Point
  stop : Point
deriving DecidableEq, Repr

/-- A message about another place. -/
structure Related where
  address : Text
  range : Range
  message : Text
deriving DecidableEq, Repr

/-- A diagnostic as an editor takes it. Every one is an error. -/
structure Message where
  range : Range
  source : Text
  text : Text
  /-- What it says about other places; absent when that is nothing. -/
  related : Option (List Related)
deriving DecidableEq, Repr

/-- A number, counted from zero, that is too great for an editor. -/
inductive Fault where
  | line (value : Nat)
  | character (value : Nat)
deriving DecidableEq, Repr

/-- The greatest line and character that an editor takes. -/
def limit : Nat := 2147483647

/-- The wording of a fault. Of a number that may not be written, only this is said. -/
def Fault.message (fault : Fault) : Text :=
  let describe (name : Text) (value : Nat) : Text :=
    match Text.numeral value with
    | .error long => long.message
    | .ok told =>
      "Position.".toList ++ name ++ " should be in range [0:".toList ++ Text.ofNat limit ++
        "], but was ".toList ++ told ++ ['.']
  match fault with
  | .line value => describe "line".toList value
  | .character value => describe "character".toList value

/-- A number counted from one, counted from zero; nothing comes before zero. -/
def zeroBased (value : Int) : Nat := (value - 1).toNat

/-- Converts a position. -/
def point (position : Position) : Except Fault Point :=
  if limit < zeroBased position.line then .error (.line (zeroBased position.line))
  else if limit < zeroBased position.column then .error (.character (zeroBased position.column))
  else .ok ⟨zeroBased position.line, zeroBased position.column⟩

/-- Converts a range; one without an end is empty at its start. -/
def range (start : Position) (stop : Option Position) : Except Fault Range := do
  let first ← point start
  match stop with
  | none => return ⟨first, first⟩
  | some stop => return ⟨first, ← point stop⟩

/-- The address of a source: that of its file, when it was read from one, and
otherwise the path it is shown with. -/
def address (directory : Path) (source : Source) : Text :=
  if source.onDisk then fileAddress ((Path.ofText source.path).absolute directory).text
  else source.path

/-- The related information of a note that points into a source. -/
def relatedOfNote? (directory : Path) (note : Note) : Option (Except Fault Related) :=
  match note.position with
  | some position =>
    position.source.map fun source => do
      return ⟨address directory source, ← range position none, note.message⟩
  | none => none

/-- Whether a note points into a source. -/
def isLocated (note : Note) : Bool := note.position.any Position.isKnown

/-- Converts a diagnostic of the given tool. -/
def message (directory : Path) (diagnostic : Diagnostic) (tool : Text := "locerr".toList) :
    Except Fault Message := do
  let related ← (diagnostic.notes.filterMap (relatedOfNote? directory)).mapM id
  let place ← range diagnostic.start diagnostic.stop
  let appended := (diagnostic.notes.filter (!isLocated ·)).map Note.message
  return ⟨place, tool, ['\n'].intercalate (diagnostic.message :: appended),
    if related.isEmpty then none else some related⟩

end SourceDiagnostics.LanguageServer
