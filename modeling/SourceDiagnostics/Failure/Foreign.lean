/-
# Failures of other code

A tool that reports errors also meets failures it did not make: those of the
code it calls. Such a foreign failure has a kind and arguments, and its text
follows from both. Most kinds show a single argument as it is and several as a
list in parentheses; a failed lookup quotes the key that was not found; a system
fault shows its number and its meaning, and the path it is about.

A whole number among the arguments comes with the proof that it may be written. Other
code may make a failure with a longer one, but such a failure has no text, and whoever
asks for it meets a fault of its own; it is outside this library.

A fault that would block may count what was written before it arose. The count
has to fit a machine word of 64 bits with a sign; with any other number the
failure cannot be made.
-/

import SourceDiagnostics.SystemFault

namespace SourceDiagnostics

/-- What a foreign failure was made with. -/
inductive Argument where
  | text (value : Text)
  | number (value : Int) (short : Text.isWritable value = true)
deriving DecidableEq, Repr

namespace Argument

/-- An argument shown as it is. -/
def shown : Argument → Text
  | .text value => value
  | .number value _ => Text.ofInt value

/-- An argument shown so that its kind can be told. -/
def quoted : Argument → Text
  | .text value => value.quoted
  | .number value _ => Text.ofInt value

/-- Several arguments in parentheses. -/
def tuple (arguments : List Argument) : Text :=
  '(' :: ", ".toList.intercalate (arguments.map quoted) ++ [')']

/-- Arguments as most failures show them: none as the empty text, one as it is,
several in parentheses. -/
def list : List Argument → Text
  | [] => []
  | [argument] => argument.shown
  | arguments => tuple arguments

end Argument

/-- A failure made by other code. The general kinds have no rules of their own. -/
inductive Foreign where
  | general (kind : Text) (arguments : List Argument)
  | lookup (arguments : List Argument)
  | system (kind : SystemFault.Kind) (arguments : List Argument)
deriving DecidableEq

/-- Why a foreign failure cannot be made. -/
inductive Foreign.Fault where
  | countTooLarge
deriving DecidableEq, Repr

/-- The wording of the reason. -/
def Foreign.Fault.message : Foreign.Fault → Text
  | .countTooLarge => "cannot fit 'int' into an index-sized integer".toList

namespace Foreign

/-- The kind of a system fault. The unspecific kind gives way to the kind of the
number, when there are two to five arguments and the first is a number that has
one. -/
def systemKind (kind : SystemFault.Kind) (arguments : List Argument) : SystemFault.Kind :=
  match kind, arguments with
  | .unspecific, .number n _ :: _ :: more =>
    if more.length ≤ 3 then (SystemFault.Kind.ofNumber? n).getD .unspecific else .unspecific
  | kind, _ => kind

/-- The count of what was written before a fault that would block: a number in
the place of the path, when there are three to five arguments. -/
def writtenCount? : SystemFault.Kind → List Argument → Option Int
  | .wouldBlock, _ :: _ :: .number count _ :: more => if more.length ≤ 2 then some count else none
  | _, _ => none

/-- Whether a number fits a machine word of 64 bits with a sign. -/
def fitsWord (count : Int) : Bool := -9223372036854775808 ≤ count && count ≤ 9223372036854775807

/-- A system fault as its maker describes it. -/
def ofSystem (kind : SystemFault.Kind) (arguments : List Argument) : Except Fault Foreign :=
  let kind := systemKind kind arguments
  if (writtenCount? kind arguments).all fitsWord then .ok (.system kind arguments)
  else .error .countTooLarge

/-- The number and the meaning of a system fault. -/
def systemHead (number meaning : Argument) : Text :=
  "[Errno ".toList ++ number.shown ++ "] ".toList ++ meaning.shown

/-- The text of a system fault. With two to five arguments they are the number,
the meaning, a path, a part that is not shown, and a second path. A count of what
was written stands in the place of the path, and then no path is shown. -/
def systemMessage (kind : SystemFault.Kind) (arguments : List Argument) : Text :=
  match arguments with
  | [number, meaning] => systemHead number meaning
  | number :: meaning :: path :: more =>
    if 2 < more.length then Argument.list arguments
    else if (writtenCount? kind arguments).isSome then systemHead number meaning
    else
      systemHead number meaning ++ ": ".toList ++ path.quoted ++
        (more[1]?.elim [] fun other => " -> ".toList ++ other.quoted)
  | arguments => Argument.list arguments

/-- The arguments that a failure is described by. Those of a system fault end
with its meaning when a path follows. -/
def describing : Foreign → List Argument
  | .general _ arguments | .lookup arguments => arguments
  | .system kind arguments =>
    if 5 < arguments.length || (writtenCount? kind arguments).isSome then arguments
    else arguments.take 2

/-- The text of a foreign failure. -/
def message : Foreign → Text
  | .general _ arguments => Argument.list arguments
  | .lookup [argument] => argument.quoted
  | .lookup arguments => Argument.list arguments
  | .system kind arguments => systemMessage kind arguments

end Foreign

end SourceDiagnostics
