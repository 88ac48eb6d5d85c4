/-
# File trees

A file tree says which places hold a file, and with what bytes, which are
directories, and which hold a link, and to where. A place is a list of names from
the root on. Every place above a file, a link or a listed directory is a directory
without being listed, and the root always is one.

Looking a path up is not the same as reading it as a `Path`: the text is walked
name by name, and each step, even one that stays or goes back up, must be taken
from a directory. So a path that turns back from a missing directory leads
nowhere, and a slash behind a file is a fault. Where a link is met, the walk goes on
along its target, from the root or from the directory that holds the link. After
so many links the walk is given up, which is how links that lead in a circle are
noticed. The system may also refuse to look at a place at all.

Resolving a path goes the same way, but is content with places where nothing is:
what is missing is taken to be a directory that could be there. A path without a root
is resolved in its absolute form. A place whose links lead in a circle stays as it is,
and it is a fault if the walk to it is given up; of the places in a circle, any may be
the one that is named then.

The tree knows of files, directories and links only, and it does not change while it
is looked at. A working directory is a path and need not exist; a directory that was
removed under a running program, which has no path, cannot be told. Paths are texts,
so there are none whose bytes are no text.
-/

import SourceDiagnostics.Path
import SourceDiagnostics.SystemFault
import SourceDiagnostics.Text.Utf8

namespace SourceDiagnostics

/-- Where something is in a file tree: the names from the root on. -/
abbrev FileTree.Location := List Path.Name

/-- What stands at a place of a file tree, when it is no link. -/
inductive FileTree.Entry where
  | file (content : Bytes)
  | directory
deriving DecidableEq

/-- Files, directories and links. -/
structure FileTree where
  files : List (FileTree.Location × Bytes) := []
  /-- Directories; those above other entries need not be listed. -/
  directories : List FileTree.Location := []
  /-- Links with the path texts to which they lead. -/
  links : List (FileTree.Location × Text) := []
  /-- The places at which the system refuses to look, whatever stands there. -/
  refused : FileTree.Location → Option Refusal := fun _ => none

namespace FileTree

/-- Where the link at a place leads, if one stands there. A file hides a link of the
same place. -/
def link? (tree : FileTree) (place : Location) : Option Text :=
  if (tree.files.lookup place).isSome then none else tree.links.lookup place

/-- What stands at a place. A file hides a directory of the same place. -/
def entry? (tree : FileTree) (place : Location) : Option Entry :=
  match tree.files.lookup place with
  | some content => some (.file content)
  | none =>
    if place.isEmpty || tree.directories.any (place.isPrefixOf ·) ||
        tree.files.any (place.isPrefixOf ·.1) || tree.links.any (place.isPrefixOf ·.1.dropLast) then
      some .directory
    else none

/-- The place from which the target of a link is taken: the root, or the directory
that holds the link. -/
def linkStart (place : Location) (target : Text) : Location :=
  if target.startsWith ['/'] then [] else place

/-- Walks from a place along the components of a path. Each component is a step
from a directory: an empty one and `.` stay, `..` goes up, which stays at the
root, and any other name must exist. What is done where a link is met is given:
with a place and the components that are left from there. -/
def walkWith (tree : FileTree) (turn : Location → List Text → Except LookupFault Location)
    (place : Location) : List Text → Except LookupFault Location
  | [] => .ok place
  | component :: components =>
    match tree.entry? place with
    | some .directory =>
      match Path.Name.ofText? component with
      | none => walkWith tree turn place components
      | some name =>
        if name = .parent then walkWith tree turn place.dropLast components
        else
          match tree.refused (place ++ [name]) with
          | some refusal => .error (.refused refusal)
          | none =>
            match tree.link? (place ++ [name]) with
            | some target => turn (linkStart place target) (target.splitOn '/' ++ components)
            | none =>
              if (tree.entry? (place ++ [name])).isSome then
                walkWith tree turn (place ++ [name]) components
              else .error .notFound
    | _ => .error .notDirectory

/-- Walks along components and follows up to so many links. -/
def walk (tree : FileTree) : Nat → Location → List Text → Except LookupFault Location
  | 0 => tree.walkWith fun _ _ => .error .tooManyLinks
  | links + 1 => tree.walkWith (tree.walk links)

/-- The most links that are followed on one way. -/
def linkLimit : Nat := 40

/-- The place a path text leads to from a directory. The empty text leads
nowhere. -/
def locate (tree : FileTree) (directory : Location) (text : Text) : Except LookupFault Location :=
  if text.isEmpty then .error .notFound
  else
    tree.walk linkLimit (if text.startsWith ['/'] then [] else directory) (text.splitOn '/')

/-- What stands where a path text leads. -/
def status (tree : FileTree) (directory : Location) (text : Text) : Except LookupFault Entry :=
  match tree.locate directory text with
  | .error fault => .error fault
  | .ok place =>
    match tree.entry? place with
    | some entry => .ok entry
    | none => .error .notFound

/-- What stands where a path text leads, if it leads anywhere. -/
def lookup? (tree : FileTree) (directory : Location) (text : Text) : Option Entry :=
  if text.contains '\x00' then none else (tree.status directory text).toOption

/-! ## Resolving -/

/-- The link that is seen at a place: there is none to be seen behind anything but
directories, nor where the system refuses to look. -/
def visibleLink? (tree : FileTree) (place : Location) : Option Text :=
  if (List.range place.length).all fun count =>
      tree.entry? (place.take count) = some .directory &&
        (tree.refused (place.take (count + 1))).isNone then
    tree.link? place
  else none

/-- Follows names from a place below the root, `..` being one step back and no step at
the root itself. Where a link is seen, the given way is taken. What cannot be
followed to its end is a fault, namely the names that were come to, with the rest. -/
def traceWith (tree : FileTree) (turn : Location → Text → Except (List Path.Name) Location)
    (place : Location) : List Path.Name → Except (List Path.Name) Location
  | [] => .ok place
  | name :: names =>
    if name = .parent then traceWith tree turn place.dropLast names
    else
      match tree.visibleLink? (place ++ [name]) with
      | none => traceWith tree turn (place ++ [name]) names
      | some target =>
        match turn (place ++ [name]) target with
        | .ok next => traceWith tree turn next names
        | .error stuck => .error (stuck ++ names)

/-- Follows names where some links are being followed already. Meeting one of these
again means a circle. No more links than the tree has can be followed at a time. -/
def trace (tree : FileTree) : Nat → List Location → Location → List Path.Name →
    Except (List Path.Name) Location
  | 0, _ => tree.traceWith fun link _ => .error link
  | more + 1, under =>
    tree.traceWith fun link target =>
      if link ∈ under then .error link
      else tree.trace more (link :: under) (linkStart link.dropLast target) (Path.ofText target).names

/-- Where names from the root on lead. Links that lead in a circle stay. -/
def destination (tree : FileTree) (names : List Path.Name) : Location :=
  match tree.trace tree.links.length [] [] names with
  | .ok place => place
  | .error stuck => Path.follow [] stuck

/-- Why a path cannot be resolved. -/
inductive ResolveFault where
  | embeddedNul
  | circle (path : Text)
deriving DecidableEq

/-- The place a path leads to when it is used in `directory`: names below a root,
free of `..`. Nothing need stand there. -/
def resolve (tree : FileTree) (directory path : Path) : Except ResolveFault Path :=
  let whole := path.absolute directory
  if whole.hasNul then .error .embeddedNul
  else
    let place : Path := ⟨path.resolvedRoot directory, tree.destination whole.names⟩
    match tree.status directory.names place.text with
    | .error .tooManyLinks => .error (.circle place.text)
    | _ => .ok place

end FileTree

/-- Why the bytes of a file cannot be had. -/
inductive OpenFault where
  | embeddedNul
  | lookup (fault : LookupFault) (path : Text)
deriving DecidableEq

/-- The complaint about a NUL character in a path. -/
def OpenFault.embeddedNulMessage : Text := "embedded null byte".toList

/-- The wording of a fault. -/
def OpenFault.message : OpenFault → Text
  | .embeddedNul => embeddedNulMessage
  | .lookup fault path => fault.message path

/-- The wording of a fault. -/
def FileTree.ResolveFault.message : FileTree.ResolveFault → Text
  | .embeddedNul => OpenFault.embeddedNulMessage
  | .circle path => "Symlink loop from ".toList ++ path.quoted

/-- The bytes of the file that a path text leads to from a directory. -/
def FileTree.open (tree : FileTree) (directory : Location) (text : Text) :
    Except OpenFault Bytes :=
  if text.contains '\x00' then .error .embeddedNul
  else
    match tree.status directory text with
    | .error fault => .error (.lookup fault text)
    | .ok (.file content) => .ok content
    | .ok .directory => .error (.lookup .isDirectory text)

end SourceDiagnostics
