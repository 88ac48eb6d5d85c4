/-
# Shown paths

A path is shortened against a base only if it lies below it, name by name: the base has the same
root, and all its names come first and are not all there is. Then the names behind them are
shown, and the text that shows them has no root. Otherwise the path is shown as it was given,
and its root with it.

So nothing is lost. From the base, what is shown leads to the path again, and two paths that are
shown alike are one. The base itself, and a directory beside it whose name begins like its
own, are shown in full.
-/

import SourceDiagnostics.Proofs.Workspace

namespace SourceDiagnostics

namespace Path

/-- A path lies below a base: it starts at the same root, and some name follows those of the
base. -/
structure LiesBelow (path base : Path) : Prop where
  root : path.root = base.root
  front : base.names <+: path.names
  more : base.names ≠ path.names

theorem liesBelow_iff {path base : Path} :
    path.LiesBelow base ↔ path ≠ base ∧ path.isWithin base = true := by
  rw [isWithin, Bool.and_eq_true, decide_eq_true_iff, List.isPrefixOf_iff_prefix]
  constructor
  · rintro ⟨root, front, more⟩
    exact ⟨fun same => more (congrArg names same).symm, root, front⟩
  · rintro ⟨other, root, front⟩
    refine ⟨root, front, fun same => other ?_⟩
    obtain ⟨start, names⟩ := path
    obtain ⟨start', names'⟩ := base
    obtain rfl : start = start' := root
    obtain rfl : names' = names := same
    rfl

/-- No path lies below itself. -/
theorem not_liesBelow_self (path : Path) : ¬ path.LiesBelow path :=
  fun below => below.more rfl

/-- A path that parts from a base at its last name does not lie below it, however alike the two
names are. -/
theorem not_liesBelow_of_ne {path base : Path} {shared rest : List Name} {first second : Name}
    (last : base.names = shared ++ [first]) (other : path.names = shared ++ second :: rest)
    (ne : first ≠ second) : ¬ path.LiesBelow base := by
  intro below
  have front := below.front
  rw [last, other, List.prefix_append_right_inj, List.cons_prefix_cons] at front
  exact ne front.1

end Path

namespace Source

variable {source : Source} {base : Path}

/-- The path of a source that was read from a file: it starts at a root and is written as paths
are. -/
structure NamesFile (source : Source) : Prop where
  onDisk : source.onDisk = true
  rooted : (Path.ofText source.path).isAbsolute = true
  /-- The path is written in the one way in which paths are written. -/
  written : source.path = (Path.ofText source.path).text

theorem displayPath_of_not_onDisk (handed : source.onDisk = false) (base : Path) :
    source.displayPath base = source.path := by
  rw [displayPath, handed]
  rfl

theorem displayPath_of_liesBelow (onDisk : source.onDisk = true)
    (below : (Path.ofText source.path).LiesBelow base) :
    source.displayPath base = ((Path.ofText source.path).relativeTo base).text := by
  obtain ⟨other, within⟩ := Path.liesBelow_iff.mp below
  refine if_pos ?_
  rw [onDisk, within, Bool.true_and, Bool.and_true, decide_eq_true_iff]
  exact other

theorem displayPath_of_not_liesBelow (beside : ¬ (Path.ofText source.path).LiesBelow base) :
    source.displayPath base = source.path := by
  refine if_neg fun shortened => beside (Path.liesBelow_iff.mpr ?_)
  rw [Bool.and_eq_true, Bool.and_eq_true, decide_eq_true_iff] at shortened
  exact ⟨shortened.1.2, shortened.2⟩

/-- What is shown of a path that starts at a root leads to it from the base. -/
theorem join_displayPath (rooted : (Path.ofText source.path).isAbsolute = true) (base : Path) :
    base.join (.ofText (source.displayPath base)) = .ofText source.path := by
  by_cases short : source.onDisk = true ∧ (Path.ofText source.path).LiesBelow base
  · obtain ⟨onDisk, below⟩ := short
    rw [displayPath_of_liesBelow onDisk below, Path.ofText_text]
    exact Path.absolute_relativeTo (Path.liesBelow_iff.mp below).2
  · have full : source.displayPath base = source.path := by
      cases onDisk : source.onDisk with
      | false => exact displayPath_of_not_onDisk onDisk base
      | true => exact displayPath_of_not_liesBelow fun below => short ⟨onDisk, below⟩
    rw [full]
    exact Path.absolute_of_isAbsolute rooted base

/-- What is shown has no root exactly if the path lies below the base. -/
theorem isAbsolute_displayPath_iff (onDisk : source.onDisk = true)
    (rooted : (Path.ofText source.path).isAbsolute = true) :
    (Path.ofText (source.displayPath base)).isAbsolute = false ↔
      (Path.ofText source.path).LiesBelow base := by
  by_cases below : (Path.ofText source.path).LiesBelow base
  · rw [displayPath_of_liesBelow onDisk below, Path.ofText_text]
    exact iff_of_true rfl below
  · rw [displayPath_of_not_liesBelow below, rooted]
    exact iff_of_false nofun below

/-- A source that is read in a directory that starts at a root names its file. -/
theorem namesFile_of_source_eq_ok {workspace : Workspace}
    (rooted : workspace.directory.isAbsolute = true) {path : Text}
    (loaded : workspace.source path = .ok source) : source.NamesFile := by
  have written := Workspace.path_of_source_eq_ok loaded
  refine ⟨?_, ?_, ?_⟩
  · rw [Workspace.source] at loaded
    split at loaded
    next => cases loaded
    next => rw [← Except.ok.inj loaded]
  · rw [written, Path.ofText_text]
    exact Path.isAbsolute_absolute rooted _
  · rw [written, Path.ofText_text]

/-- Files are shown alike exactly if they have the same path. -/
theorem NamesFile.displayPath_eq_iff {first second : Source} (one : first.NamesFile)
    (other : second.NamesFile) (base : Path) :
    first.displayPath base = second.displayPath base ↔ first.path = second.path := by
  constructor
  · intro same
    have paths : Path.ofText first.path = Path.ofText second.path := by
      rw [← join_displayPath one.rooted base, same, join_displayPath other.rooted]
    rw [one.written, paths, ← other.written]
  · intro same
    rw [displayPath, displayPath, one.onDisk, other.onDisk, same]

/-- Paths are shown without loss. Against the base that a text chooses, or against the working
directory where none does, what is shown of a file leads to its path from there; it has no root
exactly if the path lies below the base, and otherwise it is the path as it was given, as for the
base itself and for what lies beside it. So files with the same shown path have the same path,
and those with the same path are shown alike, as holds of all sources that are read in some
directory. What is no file is shown by its own name. -/
theorem displayPath_lossless (directory : Path) (given : Option Text) :
    let base := (given.map Path.ofText).getD directory
    (∀ source : Source, source.onDisk = true → (Path.ofText source.path).isAbsolute = true →
      let path := Path.ofText source.path
      let shown := source.displayPath base
      base.join (.ofText shown) = path ∧
        ((Path.ofText shown).isAbsolute = false ↔ path.LiesBelow base) ∧
        (¬ path.LiesBelow base → shown = source.path) ∧
        (path = base → shown = source.path) ∧
        ∀ shared first second rest, base.names = shared ++ [first] →
          path.names = shared ++ second :: rest → first ≠ second → shown = source.path) ∧
    (∀ first second : Source, first.NamesFile → second.NamesFile →
      (first.displayPath base = second.displayPath base ↔ first.path = second.path)) ∧
    (∀ (workspace : Workspace) (text : Text) (source : Source),
      workspace.directory.isAbsolute = true → workspace.source text = .ok source →
        source.NamesFile) ∧
    ∀ source : Source, source.onDisk = false → source.displayPath base = source.path := by
  intro base
  refine ⟨fun source onDisk rooted => ?_, fun first second one other => ?_,
    fun _ _ _ rooted loaded => namesFile_of_source_eq_ok rooted loaded, fun source handed => ?_⟩
  · refine ⟨join_displayPath rooted base, isAbsolute_displayPath_iff onDisk rooted,
      displayPath_of_not_liesBelow, fun same => ?_, fun shared first second rest last other ne => ?_⟩
    · apply displayPath_of_not_liesBelow
      rw [same]
      exact Path.not_liesBelow_self base
    · exact displayPath_of_not_liesBelow (Path.not_liesBelow_of_ne last other ne)
  · exact one.displayPath_eq_iff other base
  · exact displayPath_of_not_onDisk handed base

/-- A directory whose name merely begins like the last name of the base is not taken for it. -/
theorem displayPath_lossless_beside :
    let inside : Source := ⟨"/w/a/f".toList, true, ['x']⟩
    let beside : Source := ⟨"/w/ab/f".toList, true, ['x']⟩
    let base := Path.ofText "/w//./a/".toList
    inside.NamesFile ∧ beside.NamesFile ∧
      inside.displayPath base = ['f'] ∧ base.join (.ofText ['f']) = .ofText inside.path ∧
      beside.displayPath base = beside.path ∧
      inside.displayPath base ≠ beside.displayPath base := by
  intro inside beside base
  let shared : List Path.Name := [⟨['w'], by decide⟩]
  let rest : List Path.Name := [⟨['f'], by decide⟩]
  have one : inside.NamesFile := ⟨rfl, by decide, by decide⟩
  have other : beside.NamesFile := ⟨rfl, by decide, by decide⟩
  have shown : inside.displayPath base = ['f'] := by decide
  obtain ⟨shows, alike, -⟩ := displayPath_lossless .top (some "/w//./a/".toList)
  obtain ⟨leads, -⟩ := shows inside one.onDisk one.rooted
  obtain ⟨-, -, -, -, full⟩ := shows beside other.onDisk other.rooted
  refine ⟨one, other, shown, ?_, ?_, fun same => ?_⟩
  · rw [← shown]
    exact leads
  · exact full shared ⟨['a'], by decide⟩ ⟨['a', 'b'], by decide⟩ rest (by decide) (by decide)
      (by decide)
  · have paths : inside.path = beside.path := (alike inside beside one other).mp same
    exact absurd paths (by decide)

end Source

end SourceDiagnostics
