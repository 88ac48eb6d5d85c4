/-
# The program

The program proper is `CommandLine.run`, which looks at a file tree and not at
the disk. This module takes a picture of the part of the disk that the arguments
can lead to: the paths that they name or hold behind an equals sign, and the
settings files of the working directory and all directories above it. Then it
hands the picture over and writes what comes of it.

The operating system follows links while the picture is taken, so that what they lead
to stands in it in their place, and `..` behind a link goes back by name. A link that
leads nowhere is missing from the picture. So is whatever the system refuses to show,
and a working directory that was removed, or arguments that are no texts, end the
program before it begins.
-/

import SourceDiagnostics.CommandLine

namespace SourceDiagnostics.Main

open CommandLine

/-- The places that may be visited on the way along a path: each beginning of
its names, followed to where it leads. -/
def visited (directory path : Path) : List FileTree.Location :=
  let names := (path.absolute directory).names
  ((List.range (names.length + 1)).map fun count => Path.follow [] (names.take count)).eraseDups

/-- The paths that arguments can lead to. -/
def candidates (directory : Path) (arguments : List Text) : List Path :=
  let named := arguments ++ arguments.filterMap attachedValue?
  let above := (List.range (directory.names.length + 1)).map fun count =>
    (⟨.single, directory.names.take count ++ [Settings.fileName]⟩ : Path)
  above ++ (named.filter fun name => !name.contains '\x00').map Path.ofText

/-- A file tree with what stands at a place of the disk. -/
def addPlace (tree : FileTree) (place : FileTree.Location) : IO FileTree := do
  let root ← IO.currentDir
  let path := root / String.ofList (Path.text ⟨.single, place⟩)
  if ← path.isDir then return { tree with directories := place :: tree.directories }
  else if ← path.pathExists then
    let content ← IO.FS.readBinFile path
    return { tree with files := (place, content.toList) :: tree.files }
  else return tree

/-- The part of the disk that arguments can lead to. -/
def picture (directory : Path) (arguments : List Text) : IO FileTree := do
  let places := ((candidates directory arguments).flatMap (visited directory)).eraseDups
  places.foldlM addPlace { directories := [directory.names] }

/-- The words of this program where those of the libraries of another would stand. -/
def library : Library where
  page
    | .program => "Usage: locerr [-v] [--version] [--help] show|locate ...\n".toList
    | .preview => "Usage: locerr show [OPTIONS] FILE MESSAGE\n".toList
    | .location => "Usage: locerr locate FILE OFFSET\n".toList
  complaint _ := "Usage: locerr [-v] [--version] [--help] show|locate ...\n".toList
  malformed := "not a TOML document".toList

/-- All bytes of a stream, behind those read before. -/
partial def readAll (stream : IO.FS.Stream) (before : ByteArray) : IO ByteArray := do
  let piece ← stream.read 65536
  if piece.isEmpty then return before
  readAll stream (before ++ piece)

/-- Writes a text to a stream. -/
def write (stream : IO.FS.Stream) (text : Text) : IO Unit := do
  stream.putStr (String.ofList text)
  stream.flush

end SourceDiagnostics.Main

open SourceDiagnostics SourceDiagnostics.Main in
/-- Runs the program on the real files and streams. -/
def main (arguments : List String) : IO UInt32 := do
  let arguments := arguments.map String.toList
  let directory := Path.ofText (← IO.currentDir).toString.toList
  let tree ← picture directory arguments
  let stdout ← IO.getStdout
  let input ←
    if arguments.contains CommandLine.standardInput then readAll (← IO.getStdin) .empty
    else pure .empty
  let surroundings : CommandLine.Surroundings :=
    ⟨⟨tree, directory⟩, input.toList, ← stdout.isTty, library⟩
  let (verbose, outcome) := CommandLine.run surroundings arguments
  let stderr ← IO.getStderr
  write stderr (outcome.standardError library verbose (← stderr.isTty))
  write stdout outcome.standardOutput
  return outcome.exitStatus.toUInt32
