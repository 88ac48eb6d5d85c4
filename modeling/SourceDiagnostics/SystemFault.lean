/-
# System faults

The operating system numbers the reasons for which it refuses a request. Some
numbers have a kind of their own, and several numbers may share one; every other
number belongs to the unspecific kind.

A fault about a path says its number, what the number means, and the path in
quotation marks, exactly as it was handed over.
-/

import SourceDiagnostics.Text.Quoted

namespace SourceDiagnostics

/-- The kinds of system faults. -/
inductive SystemFault.Kind where
  | unspecific
  | permissionDenied
  | notFound
  | noSuchProcess
  | interrupted
  | noChildProcess
  | wouldBlock
  | alreadyExists
  | notDirectory
  | isDirectory
  | connection
  | brokenPipe
  | connectionAborted
  | connectionReset
  | connectionRefused
  | timedOut
deriving DecidableEq, Repr

/-- The kind of a number, for numbers that have one of their own. -/
def SystemFault.Kind.ofNumber? : Int → Option SystemFault.Kind
  | 1 | 13 => some .permissionDenied
  | 2 => some .notFound
  | 3 => some .noSuchProcess
  | 4 => some .interrupted
  | 10 => some .noChildProcess
  | 11 | 114 | 115 => some .wouldBlock
  | 17 => some .alreadyExists
  | 20 => some .notDirectory
  | 21 => some .isDirectory
  | 32 | 108 => some .brokenPipe
  | 103 => some .connectionAborted
  | 104 => some .connectionReset
  | 110 => some .timedOut
  | 111 => some .connectionRefused
  | _ => none

/-- Why the system refuses to look at a place, whatever stands there. -/
inductive Refusal where
  | denied
  | nameTooLong
  | inputOutput
deriving DecidableEq, Repr

/-- Why a path could not be looked up. -/
inductive LookupFault where
  | notFound
  | notDirectory
  | isDirectory
  | tooManyLinks
  | refused (refusal : Refusal)
deriving DecidableEq, Repr

/-- The number of a reason. -/
def LookupFault.number : LookupFault → Nat
  | .notFound => 2
  | .notDirectory => 20
  | .isDirectory => 21
  | .tooManyLinks => 40
  | .refused .denied => 13
  | .refused .nameTooLong => 36
  | .refused .inputOutput => 5

/-- The wording of a reason. -/
def LookupFault.meaning : LookupFault → Text
  | .notFound => "No such file or directory".toList
  | .notDirectory => "Not a directory".toList
  | .isDirectory => "Is a directory".toList
  | .tooManyLinks => "Too many levels of symbolic links".toList
  | .refused .denied => "Permission denied".toList
  | .refused .nameTooLong => "File name too long".toList
  | .refused .inputOutput => "Input/output error".toList

/-- Whether a reason amounts to nothing being there. The others leave it open. -/
def LookupFault.isAbsence : LookupFault → Bool
  | .notFound | .notDirectory | .tooManyLinks => true
  | .isDirectory | .refused _ => false

/-- The wording of a reason about a path. -/
def LookupFault.message (fault : LookupFault) (path : Text) : Text :=
  "[Errno ".toList ++ Text.ofNat fault.number ++ "] ".toList ++ fault.meaning ++ ": ".toList ++
    path.quoted

end SourceDiagnostics
