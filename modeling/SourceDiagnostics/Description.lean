/-
# Descriptions for developers

Besides being shown to a user, the values of this library are written into logs
and failing tests. A description is one line that names the kind of a value and
its parts, with every text quoted.

A source is described without its code, which would drown everything else, and
a diagnostic by the number of its notes. A foreign failure is described by what
it was made with.
-/

import SourceDiagnostics.Diagnostic
import SourceDiagnostics.Failure.Foreign
import SourceDiagnostics.Text.Quoted

namespace SourceDiagnostics

/-- The word for an absent part. -/
def Description.absent : Text := "None".toList

/-- A kind of value with its parts, each under its label. -/
def Description.record (kind : Text) (parts : List (Text × Text)) : Text :=
  kind ++ '(' :: ", ".toList.intercalate (parts.map fun (label, part) => label ++ '=' :: part) ++ [')']

/-- A source by its path and origin. -/
def Source.description (source : Source) : Text :=
  Description.record "Source".toList
    [("path".toList, source.path.quoted), ("exists".toList, Text.ofBool source.onDisk)]

/-- A position by its three numbers and its source. -/
def Position.description (position : Position) : Except Text.NumeralFault Text := do
  let offset ← Text.numeral position.offset
  let line ← Text.numeral position.line
  let column ← Text.numeral position.column
  return Description.record "Position".toList
    [("offset".toList, offset), ("line".toList, line), ("column".toList, column),
      ("source".toList, position.source.elim Description.absent Source.description)]

/-- A note by its message and position. -/
def Note.description (note : Note) : Except Text.NumeralFault Text := do
  let position ← note.position.elim (.ok Description.absent) Position.description
  return Description.record "Note".toList
    [("message".toList, note.message.quoted), ("pos".toList, position)]

/-- A quoted line by its two parts. -/
def ExcerptLine.description (line : ExcerptLine) : Text :=
  Description.record "SnippetLine".toList
    [("indent".toList, line.indent.quoted), ("code".toList, line.code.quoted)]

/-- A diagnostic by its location, its message and the number of its notes. -/
def Diagnostic.description (diagnostic : Diagnostic) (base : Path) :
    Except Text.NumeralFault Text := do
  let location ← diagnostic.start.location base
  return Description.record "Diagnostic".toList
    [("start".toList, location.quoted), ("message".toList, diagnostic.message.quoted),
      ("notes".toList, Text.ofNat diagnostic.notes.length)]

/-- A foreign failure by the name of its kind and its arguments. -/
def Foreign.description (kind : Text) (failure : Foreign) : Text :=
  kind ++ Argument.tuple failure.describing

end SourceDiagnostics
