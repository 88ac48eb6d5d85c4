/-
# Where a file tree leads

A path is resolved by names and links together. This module settles what can be said
whatever the links are: a path from a root leads to the same place from every directory,
the place starts at a root if the directory does, and no step back is left in its names.
It also settles that without links nothing but names decides, and that the system then
never gives up on a walk.

A file that is seen is not missing when it is opened.
-/

import SourceDiagnostics.Proofs.Path
import SourceDiagnostics.Proofs.Path.Resolution
import SourceDiagnostics.Workspace

namespace SourceDiagnostics.FileTree

variable {tree : FileTree} {directory : Location}

private theorem parent_not_mem_concat {place : Location} (straight : Path.Name.parent ∉ place)
    {name : Path.Name} (ahead : name ≠ .parent) : Path.Name.parent ∉ place ++ [name] := by
  rw [List.mem_append, List.mem_singleton]
  exact fun mem => mem.elim straight (Ne.symm ahead)

/-- Steps back are taken while names are followed, and so none is left, as long as none is
left where links lead. -/
private theorem parent_not_mem_of_traceWith
    {turn : Location → Text → Except (List Path.Name) Location}
    (turns : ∀ link target next, Path.Name.parent ∉ link → turn link target = .ok next →
      Path.Name.parent ∉ next)
    {names : List Path.Name} {place next : Location} (straight : Path.Name.parent ∉ place)
    (led : tree.traceWith turn place names = .ok next) : Path.Name.parent ∉ next := by
  induction names generalizing place with
  | nil =>
      cases led
      exact straight
  | cons name names ih =>
      rw [traceWith] at led
      split at led
      next => exact ih (fun mem => straight (List.dropLast_subset _ mem)) led
      next ahead =>
        have longer := parent_not_mem_concat straight ahead
        split at led
        next => exact ih longer led
        next target _ =>
          split at led
          next place' turned => exact ih (turns _ _ _ longer turned) led
          next => cases led

/-- By induction on the links that can still be followed. -/
private theorem parent_not_mem_of_trace {more : Nat} {under : List Location}
    {names : List Path.Name}
    {place next : Location} (straight : Path.Name.parent ∉ place)
    (led : tree.trace more under place names = .ok next) : Path.Name.parent ∉ next := by
  induction more generalizing under place names next with
  | zero =>
      refine parent_not_mem_of_traceWith (fun link target next _ turned => ?_) straight led
      cases turned
  | succ more ih =>
      refine parent_not_mem_of_traceWith (fun link target next straight turned => ?_) straight led
      split at turned
      next => cases turned
      next =>
        refine ih ?_ turned
        rw [linkStart]
        split
        next => exact List.not_mem_nil
        next => exact fun mem => straight (List.dropLast_subset _ mem)

theorem parent_not_mem_destination (tree : FileTree) (names : List Path.Name) :
    Path.Name.parent ∉ tree.destination names := by
  rw [destination]
  split
  next place led => exact parent_not_mem_of_trace List.not_mem_nil led
  next => exact Path.parent_not_mem_follow List.not_mem_nil _

/-! ## Resolved paths -/

variable {directory path place : Path}

theorem resolve_eq_ok (resolved : tree.resolve directory path = .ok place) :
    place = ⟨path.resolvedRoot directory, tree.destination (path.absolute directory).names⟩ ∧
      (path.absolute directory).hasNul = false := by
  rw [resolve] at resolved
  dsimp only at resolved
  split at resolved
  next => cases resolved
  next clean =>
    split at resolved
    next => cases resolved
    next =>
      cases resolved
      exact ⟨rfl, Bool.not_eq_true _ ▸ clean⟩

/-- No step back is left in a path that is resolved. -/
theorem parent_not_mem_of_resolve_eq_ok (resolved : tree.resolve directory path = .ok place) :
    Path.Name.parent ∉ place.names := by
  rw [(resolve_eq_ok resolved).1]
  exact tree.parent_not_mem_destination _

/-- In a directory that starts at a root, every path leads to a place that does. -/
theorem isAbsolute_of_resolve_eq_ok (rooted : directory.isAbsolute = true)
    (resolved : tree.resolve directory path = .ok place) : place.isAbsolute = true := by
  rw [(resolve_eq_ok resolved).1]
  change decide (path.resolvedRoot directory ≠ .none) = true
  rw [Path.resolvedRoot]
  split
  next => rfl
  next => exact rooted

/-- The complaint about a NUL character is made exactly if one stands in the path or in the
directory before it. -/
theorem resolve_eq_embeddedNul_iff :
    tree.resolve directory path = .error .embeddedNul ↔ (path.absolute directory).hasNul = true := by
  rw [resolve]
  dsimp only
  split
  next nul => exact iff_of_true rfl nul
  next clean =>
    refine iff_of_false ?_ clean
    split <;> exact nofun

theorem status_of_startsWith (tree : FileTree) {text : Text} (rooted : text.startsWith ['/'] = true)
    (first second : Location) : tree.status first text = tree.status second text := by
  rw [status, status, locate, locate, if_pos rooted, if_pos rooted]

/-- A path that starts at a root leads to the same place from every directory. -/
theorem resolve_of_isAbsolute (tree : FileTree) (rooted : path.isAbsolute = true)
    (first second : Path) : tree.resolve first path = tree.resolve second path := by
  have begun (names : List Path.Name) : (Path.text ⟨.single, names⟩).startsWith ['/'] = true :=
    Path.startsWith_text _
  rw [resolve, resolve, Path.absolute_of_isAbsolute rooted, Path.absolute_of_isAbsolute rooted,
    Path.resolvedRoot, Path.resolvedRoot, if_pos rooted, if_pos rooted]
  dsimp only
  rw [tree.status_of_startsWith (begun _) first.names second.names]

/-! ## Trees without links -/

section

variable (unlinked : tree.links = [])
include unlinked

theorem link?_of_unlinked (place : Location) : tree.link? place = none := by
  rw [link?, unlinked]
  split <;> rfl

theorem traceWith_of_unlinked (turn : Location → Text → Except (List Path.Name) Location)
    (place : Location) (names : List Path.Name) :
    tree.traceWith turn place names = .ok (Path.follow place names) := by
  induction names generalizing place with
  | nil => rfl
  | cons name names ih =>
      have unseen (place : Location) : tree.visibleLink? place = none := by
        rw [visibleLink?, link?_of_unlinked unlinked]
        split <;> rfl
      rw [traceWith, Path.follow, unseen]
      dsimp only
      rw [ih, ih]
      split <;> rfl

theorem trace_of_unlinked (links : Nat) (under : List Location) (place : Location)
    (names : List Path.Name) :
    tree.trace links under place names = .ok (Path.follow place names) := by
  cases links <;> exact traceWith_of_unlinked unlinked _ place names

theorem destination_of_unlinked (names : List Path.Name) :
    tree.destination names = Path.follow [] names := by
  rw [destination, trace_of_unlinked unlinked]

/-- Without links, a walk fails where something is missing or no directory, or where the
system refuses to look. By induction on the components. -/
theorem fault_of_walkWith {turn : Location → List Text → Except LookupFault Location}
    {place : Location} {components : List Text} {fault : LookupFault}
    (failed : tree.walkWith turn place components = .error fault) :
    fault = .notFound ∨ fault = .notDirectory ∨
      ∃ barred refusal, tree.refused barred = some refusal ∧ fault = .refused refusal := by
  induction components generalizing place with
  | nil => cases failed
  | cons component components ih =>
      rw [walkWith] at failed
      split at failed
      next =>
        split at failed
        next => exact ih failed
        next name _ =>
          split at failed
          next => exact ih failed
          next =>
            split at failed
            next refusal barred =>
              cases failed
              exact .inr (.inr ⟨_, refusal, barred, rfl⟩)
            next =>
              rw [link?_of_unlinked unlinked] at failed
              dsimp only at failed
              split at failed
              next => exact ih failed
              next =>
                cases failed
                exact .inl rfl
      next =>
        cases failed
        exact .inr (.inl rfl)

theorem fault_of_status {place : Location} {text : Text} {fault : LookupFault}
    (failed : tree.status place text = .error fault) :
    fault = .notFound ∨ fault = .notDirectory ∨
      ∃ barred refusal, tree.refused barred = some refusal ∧ fault = .refused refusal := by
  rw [status, locate] at failed
  split at failed
  next cause led =>
    cases failed
    split at led
    next =>
      cases led
      exact .inl rfl
    next => exact fault_of_walkWith unlinked led
  next =>
    split at failed
    next => cases failed
    next =>
      cases failed
      exact .inl rfl

/-- Without links, a path free of NUL characters leads to where its names lead. -/
theorem resolve_eq_ok_iff_of_unlinked :
    tree.resolve directory path = .ok place ↔
      (path.absolute directory).hasNul = false ∧ path.Resolves directory place := by
  rw [Path.resolves_iff, ← destination_of_unlinked unlinked]
  constructor
  · intro resolved
    exact ⟨(resolve_eq_ok resolved).2, (resolve_eq_ok resolved).1⟩
  · rintro ⟨clean, rfl⟩
    rw [resolve, clean]
    dsimp only
    rw [if_neg Bool.false_ne_true]
    split
    next given =>
      rcases fault_of_status unlinked given with same | same | ⟨_, _, _, same⟩ <;> cases same
    next => rfl

theorem resolve_ne_circle_of_unlinked (place : Text) :
    tree.resolve directory path ≠ .error (.circle place) := by
  intro given
  cases nul : (path.absolute directory).hasNul with
  | true => cases (resolve_eq_embeddedNul_iff.mpr nul).symm.trans given
  | false =>
      have led := (resolve_eq_ok_iff_of_unlinked unlinked).mpr ⟨nul, Path.resolves_iff.mpr rfl⟩
      cases led.symm.trans given

end

end SourceDiagnostics.FileTree
