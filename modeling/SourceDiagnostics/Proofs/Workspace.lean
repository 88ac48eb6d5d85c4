/-
# What the working directory decides

The working directory decides where a path without a root leads. A path text that
begins with a slash leads to the same place from everywhere, and what is read there is
the same: bytes, text and source.

Of a path text that is to become a source, only its absolute form counts. So two texts
that mean the same path in the working directory give the same source, or fail alike,
and a source that is read holds that path as it is written.
-/

import SourceDiagnostics.Proofs.FileTree

namespace SourceDiagnostics

namespace FileTree

variable (tree : FileTree) {text : Text}

theorem open_of_startsWith (rooted : text.startsWith ['/'] = true) (first second : Location) :
    tree.open first text = tree.open second text := by
  rw [FileTree.open, FileTree.open, tree.status_of_startsWith rooted first second]

theorem lookup?_of_startsWith (rooted : text.startsWith ['/'] = true) (first second : Location) :
    tree.lookup? first text = tree.lookup? second text := by
  rw [lookup?, lookup?, tree.status_of_startsWith rooted first second]

end FileTree

namespace Workspace

/-- From two directories, a file that is named from the root is the same. -/
theorem text_of_startsWith (tree : FileTree) {path : Text} (rooted : path.startsWith ['/'] = true)
    (first second : Path) :
    (⟨tree, first⟩ : Workspace).text path = (⟨tree, second⟩ : Workspace).text path := by
  rw [text, text, bytes, bytes, tree.open_of_startsWith rooted first.names second.names]

/-- A NUL character keeps a path from leading anywhere, in a directory that has none. -/
theorem resolve_eq_embeddedNul_iff {workspace : Workspace}
    (clean : workspace.directory.hasNul = false) {path : Path} :
    workspace.resolve path = .error .embeddedNul ↔ path.hasNul = true := by
  rw [← Path.hasNul_absolute clean path]
  exact FileTree.resolve_eq_embeddedNul_iff

/-- Path texts that mean the same path are the same source. -/
theorem source_congr (workspace : Workspace) {first second : Text}
    (same : (Path.ofText first).absolute workspace.directory =
      (Path.ofText second).absolute workspace.directory) :
    workspace.source first = workspace.source second := by
  rw [source, source, same]

/-- So is a source that is named from the root. -/
theorem source_of_startsWith (tree : FileTree) {path : Text}
    (rooted : path.startsWith ['/'] = true) (first second : Path) :
    (⟨tree, first⟩ : Workspace).source path = (⟨tree, second⟩ : Workspace).source path := by
  have given : (Path.ofText path).isAbsolute = true := by
    rw [Path.isAbsolute_ofText, rooted]
  have shown : (Path.ofText path).text.startsWith ['/'] = true := by
    rw [Path.startsWith_text, given]
  rw [source, source, Path.absolute_of_isAbsolute given, Path.absolute_of_isAbsolute given,
    text_of_startsWith tree shown first second]

/-- A source that was read holds the absolute form of its path. -/
theorem path_of_source_eq_ok {workspace : Workspace} {path : Text} {source : Source}
    (loaded : workspace.source path = .ok source) :
    source.path = ((Path.ofText path).absolute workspace.directory).text := by
  rw [Workspace.source] at loaded
  split at loaded
  next => exact absurd loaded nofun
  next => rw [← Except.ok.inj loaded]

end Workspace

end SourceDiagnostics
