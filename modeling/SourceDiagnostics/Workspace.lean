/-
# Workspaces

A workspace is a file tree together with the directory in which a tool works.
Relative paths, and the paths that locations show when no base directory is
chosen, are meant from that directory.

A source is read from the absolute form of its path, and that form is what its
locations show. Its bytes must be a text; line ends of any convention become
newlines, so that all offsets count one character per line end.
-/

import SourceDiagnostics.FileTree
import SourceDiagnostics.Source

namespace SourceDiagnostics

/-- A file tree seen from a directory. -/
structure Workspace where
  tree : FileTree := {}
  /-- The working directory, as an absolute path. -/
  directory : Path := .top

/-- Why a text cannot be read from a file. -/
inductive ReadFault where
  | opening (fault : OpenFault)
  | decoding (fault : Utf8.Fault)
deriving DecidableEq

/-- The wording of a fault. -/
def ReadFault.message : ReadFault → Text
  | .opening fault => fault.message
  | .decoding fault => fault.message

namespace Workspace

/-- The bytes of the file that a path text leads to. -/
def bytes (workspace : Workspace) (path : Text) : Except OpenFault Bytes :=
  workspace.tree.open workspace.directory.names path

/-- What stands where a path text leads. -/
def entry? (workspace : Workspace) (path : Text) : Option FileTree.Entry :=
  workspace.tree.lookup? workspace.directory.names path

/-- Where a path leads. -/
def resolve (workspace : Workspace) (path : Path) : Except FileTree.ResolveFault Path :=
  workspace.tree.resolve workspace.directory path

/-- The text of a file, its line ends as they are. -/
def text (workspace : Workspace) (path : Text) : Except ReadFault Text :=
  match workspace.bytes path with
  | .error fault => .error (.opening fault)
  | .ok bytes =>
    match Utf8.decode bytes with
    | .error fault => .error (.decoding fault)
    | .ok text => .ok text

/-- Reads a source from a file. -/
def source (workspace : Workspace) (path : Text) : Except ReadFault Source :=
  let shown := ((Path.ofText path).absolute workspace.directory).text
  match workspace.text shown with
  | .error fault => .error fault
  | .ok text => .ok ⟨shown, true, text.unifyLineEnds⟩

end Workspace

end SourceDiagnostics
