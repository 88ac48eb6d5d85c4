/-
# Paths

A path is a root and a list of names. Reading one from its text drops what does
not change where the path leads without looking at any file: repeated slashes
and the name `.`. The name `..` is kept, because what it means depends on the
directory it follows.

Two slashes at the very beginning are a root of their own; one slash, or three
and more, are the ordinary root. Two paths are equal when roots and names are,
whatever text they were read from. Resolving a path that starts at a root leads
to the ordinary root; resolving any other keeps the root of the directory in
which it is used.

Everything here is about the path itself. Which files exist is the business of
`SourceDiagnostics.FileTree`.
-/

import SourceDiagnostics.Text

namespace SourceDiagnostics

/-- What a path starts from: wherever it is used, the ordinary root, or the root written with
exactly two slashes. -/
inductive Path.Root where
  | none
  | single
  | double
deriving DecidableEq, Repr

/-- A name inside a path: a text that is neither empty nor `.` and holds no
slash. -/
structure Path.Name where
  text : Text
  /-- The text stands for one step of a path. -/
  proper : text ≠ [] ∧ text ≠ ['.'] ∧ '/' ∉ text
deriving DecidableEq

/-- A path: where it starts and the names that follow. -/
structure Path where
  root : Path.Root
  names : List Path.Name
deriving DecidableEq

namespace Path

/-- The name a text stands for, unless it is one that a path drops. -/
def Name.ofText? (text : Text) : Option Name :=
  if h : text ≠ [] ∧ text ≠ ['.'] ∧ '/' ∉ text then some ⟨text, h⟩ else .none

/-- The name that leads to the directory above. -/
def Name.parent : Name := ⟨['.', '.'], by decide⟩

/-- The slashes of a root. -/
def Root.text : Root → Text
  | .none => []
  | .single => ['/']
  | .double => ['/', '/']

/-- The root with which a text begins. -/
def Root.ofText : Text → Root
  | '/' :: '/' :: '/' :: _ => .single
  | '/' :: '/' :: _ => .double
  | '/' :: _ => .single
  | _ => .none

/-- Reads a path. -/
def ofText (text : Text) : Path where
  root := Root.ofText text
  names := (text.splitOn '/').filterMap Name.ofText?

/-- The text of a path. The path without root and names is written `.`. -/
def text (path : Path) : Text :=
  match path.root, path.names with
  | .none, [] => ['.']
  | root, names => root.text ++ ['/'].intercalate (names.map Name.text)

/-- The ordinary root as a path. -/
def top : Path := ⟨.single, []⟩

/-- Whether a path starts at a root. -/
def isAbsolute (path : Path) : Bool := path.root ≠ .none

/-- The second path seen from the first: itself when it has a root, otherwise
its names below the first. -/
def join (base path : Path) : Path :=
  if path.isAbsolute then path else ⟨base.root, base.names ++ path.names⟩

/-- The path without its last name; a path without names is its own parent. -/
def parent (path : Path) : Path := ⟨path.root, path.names.dropLast⟩

/-- The path made to start at a root by standing in `directory`. Nothing is
looked up and `..` stays. -/
def absolute (path directory : Path) : Path := directory.join path

/-- Whether `base` has the same root as the path and its names come first among
the path's names. -/
def isWithin (path base : Path) : Bool :=
  path.root = base.root && base.names.isPrefixOf path.names

/-- The path as seen from a base in which it lies. -/
def relativeTo (path base : Path) : Path := ⟨.none, path.names.drop base.names.length⟩

/-- Follows names from a place below the root, `..` being one step back and no
step at the root itself. -/
def follow (place : List Name) : List Name → List Name
  | [] => place
  | name :: names =>
    if name = .parent then follow place.dropLast names else follow (place ++ [name]) names

/-- Whether a NUL character stands anywhere in a path. Such a path names nothing
that could be looked up. -/
def hasNul (path : Path) : Bool := path.names.any fun name => name.text.contains '\x00'

/-- The root below which a path is found when it is used in `directory`: the
ordinary one for a path that has any root, and that of `directory` otherwise. -/
def resolvedRoot (path directory : Path) : Root :=
  if path.isAbsolute then .single else directory.root

end Path

end SourceDiagnostics
