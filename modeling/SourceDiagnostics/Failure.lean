/-
# Failures

Two sorts of failures can be wrapped and relocated: foreign ones, which other
code made, and reports. A report is a diagnostic together with the kind that the
tool gave it and the failure it was promoted from.

A report may promote a failure that is kept elsewhere, so it names that failure
by a handle. What handles stand for is the business of
`SourceDiagnostics.Failure.Store`.
-/

import SourceDiagnostics.Diagnostic
import SourceDiagnostics.Failure.Foreign

namespace SourceDiagnostics

/-- The name of a failure in a store. -/
abbrev Handle := Nat

/-- A diagnostic as a failure. -/
structure Report where
  /-- The kind that the tool gave it. -/
  kind : Text := "Diagnostic".toList
  diagnostic : Diagnostic
  /-- The foreign failure it was promoted from. -/
  cause : Option Handle := none
deriving DecidableEq

/-- A failure of either sort. -/
inductive Failure where
  | foreign (failure : Foreign)
  | report (report : Report)
deriving DecidableEq

/-- What a failure says: the message of a diagnostic without its notes and
place, or the text of a foreign failure. -/
def Failure.message : Failure → Text
  | .foreign arisen => arisen.message
  | .report made => made.diagnostic.message

end SourceDiagnostics
