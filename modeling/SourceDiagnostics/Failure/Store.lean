/-
# Failures with an identity

Failures are handed from one part of a tool to another, and the parts that
stack notes upon a report expect all others to see them. So a failure has an
identity: it lives in a store under a handle, and whoever knows the handle sees
the same failure.

The notes of a report have an identity of their own. They are kept in a list
that the report only names, and adding a note changes that list. Two reports
that named one list would show each other's notes, so a report is always made
with a fresh list, which begins as a copy of the notes it is made with.

Five operations create or change failures. Making one puts it under a fresh
handle; adding a note changes a report in place; wrapping changes a report in
place but promotes a foreign failure into a fresh report that remembers it;
relocating makes a fresh report that keeps nothing but the message; and
duplicating makes a fresh failure with the same content, except that a duplicate
report has no cause. Each operation answers with the handle of its result.

No operation removes a failure or takes a note back, and no two handles share
their notes.
-/

import SourceDiagnostics.Failure

namespace SourceDiagnostics

/-- The name of a list of notes in a store. -/
abbrev ListHandle := Nat

/-- A report as a store holds it. -/
structure StoredReport where
  kind : Text
  start : Position
  stop : Option Position
  message : Text
  /-- The list that its notes are in. -/
  notes : ListHandle
  cause : Option Handle

/-- What a store holds under a handle. -/
inductive StoredFailure where
  | foreign (failure : Foreign)
  | report (report : StoredReport)

/-- The failures made so far and the lists of notes of the reports among them. A
handle is the number of those made before. -/
structure Store where
  /-- The failures, the oldest first. -/
  failures : List StoredFailure := []
  /-- The lists of notes, the oldest first. -/
  lists : List (List Note) := []

namespace Store

/-- The notes that are in a list now. -/
def notesIn (store : Store) (list : ListHandle) : List Note := store.lists[list]?.getD []

/-- A failure as it is now. The notes of a report are those in its list. -/
def assemble (store : Store) : StoredFailure → Failure
  | .foreign failure => .foreign failure
  | .report report => .report
    { kind := report.kind
      diagnostic := ⟨report.start, report.stop, report.message, store.notesIn report.notes⟩
      cause := report.cause }

/-- The failure under a handle, as it is now. -/
def get? (store : Store) (handle : Handle) : Option Failure :=
  store.failures[handle]?.map store.assemble

/-- The report under a handle, as it is now. -/
def report? (store : Store) (handle : Handle) : Option Report :=
  match store.get? handle with
  | some (.report report) => some report
  | _ => none

/-- Puts a failure under a fresh handle. The notes of a report are copied into a
fresh list. -/
def insert (store : Store) : Failure → Store × Handle
  | .foreign failure =>
    ({ store with failures := store.failures ++ [.foreign failure] }, store.failures.length)
  | .report report =>
    let stored : StoredReport :=
      { kind := report.kind
        start := report.diagnostic.start
        stop := report.diagnostic.stop
        message := report.diagnostic.message
        notes := store.lists.length
        cause := report.cause }
    (⟨store.failures ++ [.report stored], store.lists ++ [report.diagnostic.notes]⟩,
      store.failures.length)

/-- Adds a note to the list of the report under a handle. There is nothing to be
done for a handle that holds none. -/
def addNote (store : Store) (handle : Handle) (note : Note) : Store :=
  match store.failures[handle]? with
  | some (.report report) =>
    { store with lists := store.lists.modify report.notes (· ++ [note]) }
  | _ => store

/-- Says more about a failure. A report gets a note that points to the place. A
foreign failure is promoted: the fresh report is about the place, says what the
failure says, and has the message as a note without a position. -/
def wrap (store : Store) (handle : Handle) (place : Place) (message : Text) : Store × Handle :=
  match store.get? handle with
  | some (.foreign failure) =>
    store.insert (.report
      { diagnostic := (Diagnostic.ofPlace place failure.message).addNote ⟨message, none⟩
        cause := some handle })
  | _ => (store.addNote handle ⟨message, place.notePosition⟩, handle)

/-- Says again, about a place, what a failure says. -/
def relocate (store : Store) (handle : Handle) (place : Place) : Store × Handle :=
  store.insert (.report
    { diagnostic := Diagnostic.ofPlace place (((store.get? handle).map Failure.message).getD []) })

/-- Makes a failure like the one under a handle. -/
def duplicate (store : Store) (handle : Handle) : Store × Handle :=
  match store.get? handle with
  | some (.report report) => store.insert (.report { report with cause := none })
  | some failure => store.insert failure
  | none => (store, handle)

end Store

end SourceDiagnostics
