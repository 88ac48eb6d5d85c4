/-
# Sessions

A session is a sequence of steps over one store. The result of each step is
remembered in a register of the step's number, and later steps name failures by
register. Several registers may hold the same handle, so a change made through
one of them shows through the others.

A step that only looks at a failure, or that fails itself, leaves the store alone
and its register empty. An empty register may still be wrapped and relocated: it
says the word for what is absent, and nothing is remembered as the cause. A copy
of nothing is nothing.
-/

import SourceDiagnostics.Description
import SourceDiagnostics.Failure.Store

namespace SourceDiagnostics

/-- The number of a step whose result is meant. -/
abbrev Register := Nat

/-- What a step does: a failure arises or is made, more is said about one, or one is said
again or copied. A report can be made with the notes that another report has now. -/
inductive Action where
  | foreign (failure : Foreign)
  | report (kind : Text) (diagnostic : Diagnostic)
  | reportWithNotesOf (kind : Text) (diagnostic : Diagnostic) (donor : Register)
  | note (target : Register) (note : Note)
  | wrap (target : Register) (place : Place) (message : Text)
  | relocate (target : Register) (place : Place)
  | duplicate (target : Register)

/-- A store and the results of the steps so far. -/
structure Session where
  store : Store := {}
  /-- The results, the oldest first; empty for steps that made nothing. -/
  registers : List (Option Handle) := []

namespace Session

/-- The handle in a register. -/
def handle? (session : Session) (register : Register) : Option Handle :=
  (session.registers[register]?).join

/-- The first register that holds a handle. -/
def register? (session : Session) (handle : Handle) : Option Register :=
  session.registers.idxOf? (some handle)

/-- The first register that holds the same as another, be it nothing. -/
def firstLike? (session : Session) (register : Register) : Option Register :=
  session.registers.idxOf? (session.handle? register)

/-- The failure in a register. -/
def failure? (session : Session) (register : Register) : Option Failure :=
  (session.handle? register).bind session.store.get?

/-- The report in a register. -/
def report? (session : Session) (register : Register) : Option Report :=
  (session.handle? register).bind session.store.report?

/-- The session after a step whose outcome is known. -/
def record (session : Session) (result : Store × Handle) : Session :=
  ⟨result.1, session.registers ++ [some result.2]⟩

/-- The session after a fresh report about a place that nothing caused. -/
def recordReport (session : Session) (place : Place) (message : Text) (notes : List Note) :
    Session :=
  session.record (session.store.insert (.report
    { diagnostic := { Diagnostic.ofPlace place message with notes := notes } }))

/-- The session after a step that made nothing. -/
def pass (session : Session) : Session :=
  { session with registers := session.registers ++ [none] }

/-- Performs a step. It cannot be performed when a register holds no report where
one is needed. -/
def perform? (session : Session) : Action → Option Session
  | .foreign failure => some (session.record (session.store.insert (.foreign failure)))
  | .report kind diagnostic => some (session.record (session.store.insert
      (.report { kind := kind, diagnostic := diagnostic })))
  | .reportWithNotesOf kind diagnostic donor => do
    let report ← session.report? donor
    return session.record (session.store.insert (.report
      { kind := kind
        diagnostic := { diagnostic with notes := report.diagnostic.notes } }))
  | .note target note => do
    let handle ← session.handle? target
    let _ ← session.store.report? handle
    return session.record (session.store.addNote handle note, handle)
  | .wrap target place message =>
    match session.handle? target with
    | some handle => some (session.record (session.store.wrap handle place message))
    | none => some (session.recordReport place Description.absent [⟨message, none⟩])
  | .relocate target place =>
    match session.handle? target with
    | some handle => some (session.record (session.store.relocate handle place))
    | none => some (session.recordReport place Description.absent [])
  | .duplicate target =>
    match session.handle? target with
    | some handle => some (session.record (session.store.duplicate handle))
    | none => some session.pass

end Session

end SourceDiagnostics
