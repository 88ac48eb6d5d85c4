/-
# The base directory of settings

A base directory is meant from the directory of the settings file. When the path of
that file starts at a root, the working directory takes no part in this: the same file
gives the same settings, or the same fault, wherever it is read.

Paths are shortened against the working directory only while settings choose no base.
Settings whose document names one have one once they are read, since a document names a
base directory or is refused for it. What is rendered under them is then the same in every
working directory.
-/

import SourceDiagnostics.Proofs.Diagnostic.Layout
import SourceDiagnostics.Proofs.Settings
import SourceDiagnostics.Proofs.Workspace

namespace SourceDiagnostics

namespace Settings

variable {path : Path} {document : Toml.Table}

private theorem baseOf_of_isAbsolute (tree : FileTree) (rooted : path.isAbsolute = true)
    (first second : Path) : baseOf ⟨tree, first⟩ path = baseOf ⟨tree, second⟩ path := by
  funext value
  cases value with
  | none => rfl
  | some value =>
      cases value with
      | text name =>
          have above : path.parent.isAbsolute = true := rooted
          rw [baseOf, baseOf, Workspace.resolve, Workspace.resolve,
            tree.resolve_of_isAbsolute (Path.isAbsolute_join above _) first second]
      | _ => rfl

private theorem ofDocument_of_isAbsolute (tree : FileTree) (rooted : path.isAbsolute = true)
    (first second : Path) : ofDocument ⟨tree, first⟩ path = ofDocument ⟨tree, second⟩ path := by
  funext document
  rw [ofDocument, ofDocument, baseOf_of_isAbsolute tree rooted first second]

/-- The settings of a document name a base directory. -/
def NamesBase (document : Toml.Table) : Prop :=
  ∃ table value, document.lookup tableKey = some (.table table) ∧ table.lookup baseKey = some value

/-- A base directory that is named is had, or there are no settings. -/
theorem exists_base_of_ofDocument {workspace : Workspace} {settings : Settings}
    (names : NamesBase document) (read : ofDocument workspace path document = .ok settings) :
    ∃ base, settings.base = some base := by
  obtain ⟨table, value, found, named⟩ := names
  simp only [ofDocument, found, named] at read
  split at read
  next => cases read
  next mode known =>
    cases value with
    | text name =>
        rw [baseOf] at read
        cases leads : workspace.resolve (path.parent.join (.ofText name)) with
        | error fault =>
            rw [leads] at read
            cases read
        | ok base =>
            rw [leads] at read
            cases read
            exact ⟨base, rfl⟩
    | _ => cases read

end Settings

namespace Workspace

variable {workspace : Workspace} {path : Path}

/-- A file that is named from the root holds the same document for every directory. -/
theorem holds_of_isAbsolute (tree : FileTree) (rooted : path.isAbsolute = true)
    (first second : Path) :
    (⟨tree, first⟩ : Workspace).Holds path = (⟨tree, second⟩ : Workspace).Holds path := by
  have begun : path.text.startsWith ['/'] = true := (Path.startsWith_text path).trans rooted
  funext document
  rw [Holds, Holds, text_of_startsWith tree begun first second]

/-- It holds the same settings, too, or has the same fault. -/
theorem settings_of_isAbsolute (tree : FileTree) (rooted : path.isAbsolute = true)
    (first second : Path) :
    (⟨tree, first⟩ : Workspace).settings path = (⟨tree, second⟩ : Workspace).settings path := by
  have begun : path.text.startsWith ['/'] = true := (Path.startsWith_text path).trans rooted
  rw [settings, settings, text_of_startsWith tree begun first second,
    Settings.ofDocument_of_isAbsolute tree rooted first second]

/-- The file of the given path holds a document that names a base directory. -/
def NamesBase (workspace : Workspace) (path : Path) : Prop :=
  ∃ document, workspace.Holds path document ∧ Settings.NamesBase document

/-- Settings that are read from such a file have a base. -/
theorem exists_base_of_settings {settings : Settings} (names : workspace.NamesBase path)
    (read : workspace.settings path = .ok settings) : ∃ base, settings.base = some base := by
  obtain ⟨document, ⟨text, had, parsed⟩, names⟩ := names
  simp only [Workspace.settings, had, parsed] at read
  exact Settings.exists_base_of_ofDocument names read

/-- A search begins and ends below one root. -/
theorem root_of_searchStart {first : Path} (begun : workspace.searchStart path = .ok first) :
    first.root = path.root := by
  obtain ⟨entry, -, begun⟩ := bind_eq_ok_iff.mp begun
  split at begun <;> cases begun <;> rfl

theorem root_of_nearestSettings {root : Path.Root} {place : FileTree.Location}
    (found : workspace.nearestSettings root place = .ok path) : path.root = root := by
  fun_induction Workspace.nearestSettings workspace root place with
  | case1 => cases found
  | case2 => rw [← Except.ok.inj found]
  | case3 => cases found
  | case4 place candidate _ _ ih => exact ih found

/-- In a directory that starts at a root, so does the path of the settings that are
found. -/
theorem isAbsolute_of_findSettings {start : Path} (rooted : workspace.directory.isAbsolute = true)
    (found : workspace.findSettings start = .ok path) : path.isAbsolute = true := by
  rw [findSettings] at found
  split at found
  next => cases found
  next resolved leads =>
    obtain ⟨first, begun, found⟩ := bind_eq_ok_iff.mp found
    have placed : resolved.isAbsolute = true := FileTree.isAbsolute_of_resolve_eq_ok rooted leads
    rwa [Path.isAbsolute, root_of_nearestSettings found, root_of_searchStart begun]

end Workspace

/-- With a base of its own, a renderer takes no account of the working directory. -/
theorem Renderer.render_of_base {renderer : Renderer} {base : Path}
    (chosen : renderer.base = some base) (first second : Path) (diagnostic : Diagnostic) :
    renderer.render first diagnostic = renderer.render second diagnostic := by
  rw [render, render, chosen, Option.getD_some, Option.getD_some]

end SourceDiagnostics
