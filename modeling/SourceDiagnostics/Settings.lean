/-
# Settings

How diagnostics are rendered is set in the `render` table of a settings file:
when color is used, whether quoted code is emphasized, and against which
directory paths are shortened. Everything else in the file is left to others.

A settings file is looked for in the directory where a tool starts and then in
each directory above it, up to the root; the first in which the right name leads to
something decides, whatever that is. Where the system refuses to tell, the search ends
with its refusal.

The three settings are checked one after the other, and the first that is wrong
is the fault: the table must be a table, the color mode one of three texts, and
the base directory a text. A relative base directory is meant from the directory
of the settings file. Any value can say whether code is emphasized.
-/

import SourceDiagnostics.Diagnostic
import SourceDiagnostics.Toml.Document
import SourceDiagnostics.Workspace

namespace SourceDiagnostics

/-- What a stream that is written to says about itself. -/
structure Stream where
  /-- Whether it is a terminal, if it can tell. -/
  terminal : Option Bool := none
deriving DecidableEq, Repr

/-- When color is used. -/
inductive ColorMode where
  | auto
  | always
  | never
deriving DecidableEq, Repr

namespace ColorMode

/-- All modes. -/
def all : List ColorMode := [.auto, .always, .never]

/-- The name of a mode. -/
def name : ColorMode → Text
  | .auto => "auto".toList
  | .always => "always".toList
  | .never => "never".toList

/-- The mode of a name. -/
def ofName? (name : Text) : Option ColorMode := all.find? (·.name = name)

/-- The complaint about a name that no mode has. -/
def unknownMessage (name : Text) : Text := name.quoted ++ " is not a valid ColorMode".toList

/-- Whether color is used on a stream. A missing stream, and one that cannot
tell what it is, are not terminals. -/
def isColored (mode : ColorMode) (stream : Option Stream) : Bool :=
  match mode with
  | .always => true
  | .never => false
  | .auto => (stream.bind Stream.terminal).getD false

end ColorMode

/-- How diagnostics are rendered. -/
structure Settings where
  color : ColorMode := .auto
  emphasize : Bool := false
  /-- Against which directory paths are shortened; the working directory when
  absent. -/
  base : Option Path := none
deriving DecidableEq

/-- The renderer for a stream under given settings. -/
def Renderer.ofSettings (settings : Settings) (stream : Option Stream) : Renderer where
  color := settings.color.isColored stream
  emphasize := settings.emphasize
  base := settings.base

namespace Settings

/-- The name of settings files. -/
def fileName : Path.Name := ⟨"locerr.toml".toList, by decide⟩

/-- The key of the table that holds the settings. -/
def tableKey : Text := "render".toList

/-- The key of the color mode. -/
def colorKey : Text := "color".toList

/-- The key of the emphasis. -/
def emphasizeKey : Text := "emphasize".toList

/-- The key of the base directory. -/
def baseKey : Text := "base_dir".toList

/-- Why there are no settings: the file cannot be read, or its text is no document, or something
stands in it that is not of the kind of a setting. A base directory may also lead nowhere. -/
inductive Fault where
  | reading (fault : ReadFault)
  | document (fault : Toml.Fault)
  | noTable (kind : Toml.Kind)
  | color (path : Text) (value : Toml.Value)
  | base (kind : Toml.Kind)
  | baseLost (fault : FileTree.ResolveFault)
deriving DecidableEq

/-- The complaint about a whole number that is too long to be shown. -/
def longIntegerMessage : Text := Text.NumeralFault.tooLong.message

/-- The wording of a fault, where the words about a text that is no document are
given. -/
def Fault.message (malformed : Text) : Fault → Text
  | .reading fault => fault.message
  | .document fault => fault.message malformed
  | .noTable kind => ['\''] ++ kind.name ++ "' object has no attribute 'get'".toList
  | .color path value =>
    if value.hasLongInteger then longIntegerMessage
    else
      path ++ ": invalid color mode ".toList ++ value.shown ++
        " (expected auto, always or never)".toList
  | .base kind =>
    "unsupported operand type(s) for /: 'PosixPath' and '".toList ++ kind.name ++ ['\'']
  | .baseLost fault => fault.message

/-- The color mode that a value names; an absent one is the default. -/
def colorOf? : Option Toml.Value → Option ColorMode
  | none => some .auto
  | some (.text name) => ColorMode.ofName? name
  | some _ => none

/-- The base directory that a value names for the settings file of the given
path. -/
def baseOf (workspace : Workspace) (path : Path) :
    Option Toml.Value → Except Fault (Option Path)
  | none => .ok none
  | some (.text name) =>
    match workspace.resolve (path.parent.join (.ofText name)) with
    | .ok base => .ok (some base)
    | .error fault => .error (.baseLost fault)
  | some value => .error (.base value.kind)

/-- The settings that a document holds; `path` is that of its file. -/
def ofDocument (workspace : Workspace) (path : Path) (document : Toml.Table) :
    Except Fault Settings :=
  match document.lookup tableKey with
  | none => .ok {}
  | some (.table table) =>
    match colorOf? (table.lookup colorKey) with
    | none => .error (.color path.text ((table.lookup colorKey).getD (.text [])))
    | some color =>
      match baseOf workspace path (table.lookup baseKey) with
      | .error fault => .error fault
      | .ok base =>
        .ok { color := color
              emphasize := ((table.lookup emphasizeKey).map Toml.Value.isTrue).getD false
              base := base }
  | some value => .error (.noTable value.kind)

end Settings

/-- Why no settings file was found: there is none, the start cannot be resolved, or it cannot be
told whether something stands at a path. -/
inductive DiscoveryFault where
  | notFound
  | start (fault : FileTree.ResolveFault)
  | lookup (fault : LookupFault) (path : Text)
deriving DecidableEq

/-- The wording of a fault. -/
def DiscoveryFault.message : DiscoveryFault → Text
  | .notFound => "No ".toList ++ Settings.fileName.text ++ " found in any parent directory".toList
  | .start fault => fault.message
  | .lookup fault path => fault.message path

namespace Workspace

/-- What stands at a path, if anything does. Faults that amount to an absence are
none; others are, since they leave it open. -/
def present? (workspace : Workspace) (path : Path) :
    Except DiscoveryFault (Option FileTree.Entry) :=
  match workspace.tree.status workspace.directory.names path.text with
  | .ok entry => .ok (some entry)
  | .error fault => if fault.isAbsence then .ok none else .error (.lookup fault path.text)

/-- The settings in the file of the given path. -/
def settings (workspace : Workspace) (path : Path) : Except Settings.Fault Settings :=
  match workspace.text path.text with
  | .error fault => .error (.reading fault)
  | .ok text =>
    match Toml.document text with
    | .error fault => .error (.document fault)
    | .ok document => Settings.ofDocument workspace path document

/-- The path at which a search that starts at a path begins: that path, or the
directory of a file. -/
def searchStart (workspace : Workspace) (start : Path) : Except DiscoveryFault Path := do
  match ← workspace.present? start with
  | some (.file _) => return start.parent
  | _ => return start

/-- The nearest settings file below a root, from the given place upwards. Only what a
name leads to counts, so a link that leads nowhere is passed by. -/
def nearestSettings (workspace : Workspace) (root : Path.Root) (place : FileTree.Location) :
    Except DiscoveryFault Path :=
  let candidate : Path := ⟨root, place ++ [Settings.fileName]⟩
  match workspace.present? candidate with
  | .error fault => .error fault
  | .ok (some _) => .ok candidate
  | .ok none =>
    if _h : place = [] then .error .notFound
    else nearestSettings workspace root place.dropLast
termination_by place.length
decreasing_by
  have := List.length_pos_iff.2 _h
  simp
  omega

/-- The settings file that holds for a start, which need not exist. -/
def findSettings (workspace : Workspace) (start : Path) : Except DiscoveryFault Path :=
  match workspace.resolve start with
  | .error fault => .error (.start fault)
  | .ok resolved => do
    let first ← workspace.searchStart resolved
    workspace.nearestSettings first.root first.names

end Workspace

end SourceDiagnostics
