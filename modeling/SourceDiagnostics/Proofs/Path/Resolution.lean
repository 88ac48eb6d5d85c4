/-
# Where a path leads

Resolving a path is a matter of names alone. Each step back is taken out together with the
name before it, and a step back at the root is taken out alone, until none is left. The order
does not matter: whichever steps are taken out first, the names that remain are the same, and
they are those that are found by following the path name by name.

No file is looked at, so a path may lead to a place where nothing is. Where links are met on
the way it leads elsewhere, and that is no matter of names any more.
-/

import Mathlib.Logic.Relation
import SourceDiagnostics.Path

namespace SourceDiagnostics.Path

/-- A step back is taken out of a list of names: with the name before it, or alone where
nothing comes before it. -/
inductive Shortcut : List Name → List Name → Prop
  | detour {name : Name} (ahead : name ≠ .parent) (before after : List Name) :
      Shortcut (before ++ name :: .parent :: after) (before ++ after)
  | top (after : List Name) : Shortcut (.parent :: after) after

/-- A path, used in `directory`, leads to `place`: the ordinary root, or for a path that has
none that of the directory, and names without a step back that are left when steps back are
taken out. -/
structure Resolves (path directory place : Path) : Prop where
  root : place.root = if path.isAbsolute then .single else directory.root
  straight : Name.parent ∉ place.names
  shortcuts : Relation.ReflTransGen Shortcut (path.absolute directory).names place.names

/-! ## Following names -/

theorem follow_append (place first second : List Name) :
    follow place (first ++ second) = follow (follow place first) second := by
  induction first generalizing place with
  | nil => rfl
  | cons name names ih =>
      rw [List.cons_append, follow, follow]
      split
      next => exact ih _
      next => exact ih _

/-- The way to a name and back leads nowhere. -/
private theorem follow_detour {name : Name} (ahead : name ≠ .parent) (place names : List Name) :
    follow place (name :: .parent :: names) = follow place names := by
  rw [follow, if_neg ahead, follow, if_pos rfl, List.dropLast_concat]

theorem follow_of_straight {names : List Name} (straight : Name.parent ∉ names)
    (place : List Name) : follow place names = place ++ names := by
  induction names generalizing place with
  | nil => rw [follow, List.append_nil]
  | cons name names ih =>
      rw [List.mem_cons, not_or] at straight
      rw [follow, if_neg (Ne.symm straight.1), ih straight.2, List.append_assoc,
        List.singleton_append]

/-- Names that are followed leave no step back behind. -/
theorem parent_not_mem_follow {place : List Name} (straight : Name.parent ∉ place)
    (names : List Name) : Name.parent ∉ follow place names := by
  induction names generalizing place with
  | nil => exact straight
  | cons name names ih =>
      rw [follow]
      split
      next => exact ih fun mem => straight (List.dropLast_subset _ mem)
      next ahead =>
        apply ih
        rw [List.mem_append, List.mem_singleton]
        exact fun mem => mem.elim straight (Ne.symm ahead)

/-- A step back from a place is a shortcut. -/
private theorem shortcut_dropLast {place : List Name} (straight : Name.parent ∉ place)
    (names : List Name) : Shortcut (place ++ .parent :: names) (place.dropLast ++ names) := by
  rcases List.eq_nil_or_concat place with rfl | ⟨front, last, rfl⟩
  · exact .top names
  · rw [List.concat_eq_append] at straight ⊢
    have ahead : last ≠ .parent := by
      rintro rfl
      exact straight (List.mem_append_right _ (List.mem_singleton_self _))
    rw [List.append_assoc, List.dropLast_concat]
    exact .detour ahead front names

/-- Following names takes shortcuts one after the other. -/
theorem shortcuts_follow {place : List Name} (straight : Name.parent ∉ place)
    (names : List Name) :
    Relation.ReflTransGen Shortcut (place ++ names) (follow place names) := by
  induction names generalizing place with
  | nil =>
      rw [List.append_nil]
      exact .refl
  | cons name names ih =>
      rw [follow]
      split
      next back =>
        rw [back]
        apply Relation.ReflTransGen.head (shortcut_dropLast straight names)
        exact ih fun mem => straight (List.dropLast_subset _ mem)
      next ahead =>
        have longer : Name.parent ∉ place ++ [name] := by
          rw [List.mem_append, List.mem_singleton]
          exact fun mem => mem.elim straight (Ne.symm ahead)
        rw [List.append_cons]
        exact ih longer

/-- A shortcut leads to the same place. -/
theorem Shortcut.follow_eq {longer shorter : List Name} (shortcut : Shortcut longer shorter) :
    follow [] longer = follow [] shorter := by
  cases shortcut with
  | detour ahead before after => rw [follow_append, follow_detour ahead, ← follow_append]
  | top after => rfl

/-- So do several. -/
theorem follow_eq_of_shortcuts {longer shorter : List Name}
    (shortcuts : Relation.ReflTransGen Shortcut longer shorter) :
    follow [] longer = follow [] shorter := by
  induction shortcuts with
  | refl => rfl
  | tail _ shortcut ih => exact ih.trans shortcut.follow_eq

/-- Names lead to a place exactly if shortcuts do and no step back is left. -/
theorem follow_eq_iff {names place : List Name} :
    follow [] names = place ↔
      Relation.ReflTransGen Shortcut names place ∧ Name.parent ∉ place := by
  constructor
  · rintro rfl
    exact ⟨shortcuts_follow List.not_mem_nil names, parent_not_mem_follow List.not_mem_nil names⟩
  · rintro ⟨shortcuts, straight⟩
    rw [follow_eq_of_shortcuts shortcuts, follow_of_straight straight, List.nil_append]

/-! ## Paths -/

private theorem hasNul_join {base : Path} (clean : base.hasNul = false) (path : Path) :
    (base.join path).hasNul = path.hasNul := by
  rw [join]
  split
  next => rfl
  next =>
    rw [hasNul] at clean
    rw [hasNul, hasNul, List.any_append, clean, Bool.false_or]

/-- In a directory whose path is free of NUL characters, only its own can make a path
useless. -/
theorem hasNul_absolute {directory : Path} (clean : directory.hasNul = false) (path : Path) :
    (path.absolute directory).hasNul = path.hasNul :=
  hasNul_join clean path

/-- Following the names of a path leads to its place. -/
theorem resolves_iff {path directory place : Path} :
    path.Resolves directory place ↔
      place = ⟨path.resolvedRoot directory, follow [] (path.absolute directory).names⟩ := by
  obtain ⟨root, names⟩ := place
  rw [mk.injEq, @eq_comm _ names, follow_eq_iff, resolvedRoot]
  constructor
  · rintro ⟨starts, straight, shortcuts⟩
    exact ⟨starts, shortcuts, straight⟩
  · rintro ⟨starts, shortcuts, straight⟩
    exact ⟨starts, straight, shortcuts⟩

end SourceDiagnostics.Path
