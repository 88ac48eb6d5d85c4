/-
# Paths and their texts

A path is written in one way, and reading what is written gives the path back. So
two paths with the same text are the same path, although many texts may be read as
one path.

Whether a path starts at a root can be seen at its first character. A path that does
is meant the same in every directory. One that does not may be what is left of another
path when it is seen from a base, and then it leads back to that path from there.
-/

import SourceDiagnostics.Path

namespace SourceDiagnostics.Path

/-! ## Reading what is written -/

theorem Name.ofText?_text (name : Name) : Name.ofText? name.text = some name :=
  dif_pos name.proper

/-- Written names are read back. -/
theorem filterMap_splitOn_intercalate (names : List Name) :
    ((['/'].intercalate (names.map Name.text)).splitOn '/').filterMap Name.ofText? = names := by
  cases names with
  | nil => rfl
  | cons first rest =>
      have apart : ∀ text ∈ (first :: rest).map Name.text, '/' ∉ text := by
        intro text mem
        obtain ⟨name, _, rfl⟩ := List.mem_map.mp mem
        exact name.proper.2.2
      rw [List.splitOn_intercalate '/' apart (by simp), List.filterMap_map]
      have read : Name.ofText? ∘ Name.text = some := funext Name.ofText?_text
      rw [read, List.filterMap_some]

/-- The slashes of a root part no names. -/
private theorem filterMap_splitOn_root_append (root : Root) (rest : Text) :
    ((root.text ++ rest).splitOn '/').filterMap Name.ofText? =
      (rest.splitOn '/').filterMap Name.ofText? := by
  have slash (rest : Text) : (('/' :: rest).splitOn '/').filterMap Name.ofText? =
      (rest.splitOn '/').filterMap Name.ofText? := by
    rw [show '/' :: rest = [] ++ '/' :: rest from rfl, List.splitOn_append_cons_self]
    rfl
  cases root with
  | none => rfl
  | single => exact slash rest
  | double => exact (slash ('/' :: rest)).trans (slash rest)

/-- A root is told by its slashes when no other slash follows them. -/
theorem Root.ofText_text_append (root : Root) {rest : Text} (apart : rest.head? ≠ some '/') :
    Root.ofText (root.text ++ rest) = root := by
  cases rest with
  | nil => cases root <;> rfl
  | cons c rest =>
      have other : c ≠ '/' := fun same => apart (congrArg some same)
      cases root <;> simp [Root.text, Root.ofText, other]

private theorem head?_intercalate_ne (names : List Name) :
    (['/'].intercalate (names.map Name.text)).head? ≠ some '/' := by
  cases names with
  | nil => exact nofun
  | cons first rest =>
      obtain ⟨nonempty, _, apart⟩ := first.proper
      obtain ⟨c, text, whole⟩ := List.exists_cons_of_ne_nil nonempty
      have other : c ≠ '/' := fun same => apart (by rw [whole, same]; exact List.mem_cons_self)
      cases rest <;> simp [List.intercalate_cons_cons, whole, other]

/-- But for the empty path, a path is written as its root and its names. -/
theorem text_of_ne {path : Path} (ne : path ≠ ⟨.none, []⟩) :
    path.text = path.root.text ++ ['/'].intercalate (path.names.map Name.text) := by
  obtain ⟨root, names⟩ := path
  rw [text]
  split
  next noRoot noNames =>
    obtain rfl : root = .none := noRoot
    obtain rfl : names = [] := noNames
    exact absurd rfl ne
  next => rfl

/-- The text of a path is read as the path. -/
@[simp]
theorem ofText_text (path : Path) : ofText path.text = path := by
  by_cases empty : path = ⟨.none, []⟩
  · rw [empty]
    rfl
  · rw [text_of_ne empty, ofText, Root.ofText_text_append _ (head?_intercalate_ne _),
      filterMap_splitOn_root_append, filterMap_splitOn_intercalate]

/-- Paths with the same text are the same. -/
theorem text_injective : Function.Injective text :=
  Function.LeftInverse.injective ofText_text

/-! ## Roots -/

theorem Root.ofText_eq_none_iff (text : Text) :
    Root.ofText text = .none ↔ text.startsWith ['/'] = false := by
  fun_cases Root.ofText text with
  | case4 _ _ _ other =>
      refine ⟨fun _ => Bool.eq_false_iff.mpr fun begun => ?_, fun _ => rfl⟩
      obtain ⟨rest, whole⟩ := List.isPrefixOf_iff_prefix.mp begun
      exact other rest whole.symm
  | _ => exact ⟨nofun, nofun⟩

/-- A path starts at a root exactly if the text it is read from begins with a slash. -/
theorem isAbsolute_ofText (text : Text) : (ofText text).isAbsolute = text.startsWith ['/'] := by
  rw [Bool.eq_iff_iff, isAbsolute, decide_eq_true_iff, Ne, ofText, Root.ofText_eq_none_iff,
    Bool.not_eq_false]

theorem startsWith_text (path : Path) : path.text.startsWith ['/'] = path.isAbsolute := by
  rw [← isAbsolute_ofText, ofText_text]

theorem absolute_of_isAbsolute {path : Path} (rooted : path.isAbsolute = true) (directory : Path) :
    path.absolute directory = path :=
  if_pos rooted

theorem isAbsolute_join {base : Path} (rooted : base.isAbsolute = true) (path : Path) :
    (base.join path).isAbsolute = true := by
  rw [join]
  split
  next given => exact given
  next => exact rooted

/-- In a directory that starts at a root, every path does. -/
theorem isAbsolute_absolute {directory : Path} (rooted : directory.isAbsolute = true)
    (path : Path) : (path.absolute directory).isAbsolute = true :=
  isAbsolute_join rooted path

/-- What a path looks like from a base in which it lies leads back to it from there. -/
theorem absolute_relativeTo {path base : Path} (within : path.isWithin base = true) :
    (path.relativeTo base).absolute base = path := by
  rw [isWithin, Bool.and_eq_true, decide_eq_true_iff, List.isPrefixOf_iff_prefix] at within
  obtain ⟨sameRoot, front⟩ := within
  calc
    (path.relativeTo base).absolute base =
        ⟨base.root, base.names ++ path.names.drop base.names.length⟩ := rfl
    _ = ⟨path.root, path.names⟩ := by
        rw [← sameRoot, List.prefix_iff_eq_append.mp front]

end SourceDiagnostics.Path
