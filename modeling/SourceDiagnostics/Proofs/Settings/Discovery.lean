/-
# Which settings file is found

The search for settings goes through the directory in which it begins and those above it, up
to the root. In each it looks for something of the name that settings files have, and what
counts is what that name leads to. A file and a directory end the search, and so does a link
that leads to one. A link that leads nowhere, or in a circle, is passed by as if it were not
there. Where the system refuses to look, the search ends with its refusal.

The search begins where its start leads, whether or not anything is there, or in the directory
of a file that is there. A settings file that is found is read or has a fault; that it is
missing is no fault it can have.
-/

import SourceDiagnostics.Proofs.Diagnostic.Layout
import SourceDiagnostics.Proofs.Settings
import SourceDiagnostics.Proofs.Workspace

namespace SourceDiagnostics

/-- The path of the settings in a directory. -/
def Settings.pathIn (root : Path.Root) (directory : FileTree.Location) : Path :=
  ⟨root, directory ++ [fileName]⟩

namespace Workspace

variable {workspace : Workspace} {root : Path.Root} {place : FileTree.Location}

/-! ## What is seen -/

/-- A refusal tells the path at which it was met. -/
theorem exists_lookup_of_present?_eq_error {path : Path} {fault : DiscoveryFault}
    (refusal : workspace.present? path = .error fault) :
    ∃ cause, fault = .lookup cause path.text ∧ cause.isAbsence = false ∧
      workspace.tree.status workspace.directory.names path.text = .error cause := by
  rw [present?] at refusal
  split at refusal
  next => cases refusal
  next cause failed =>
    split at refusal
    next => cases refusal
    next seen =>
      cases refusal
      exact ⟨cause, rfl, Bool.not_eq_true _ ▸ seen, failed⟩

/-- The search comes from a place to a directory: this is the place or above it, and in the
directories that are passed by on the way, the name of settings files leads to nothing. -/
structure ComesUpTo (workspace : Workspace) (root : Path.Root)
    (place directory : FileTree.Location) : Prop where
  above : directory <+: place
  passed : ∀ nearer, nearer <+: place → ¬ nearer <+: directory →
    workspace.present? (Settings.pathIn root nearer) = .ok none

/-- Neither in a place nor in any directory above it does the name of settings files lead to
something. -/
def LacksSettings (workspace : Workspace) (root : Path.Root) (place : FileTree.Location) : Prop :=
  ∀ directory, directory <+: place →
    workspace.present? (Settings.pathIn root directory) = .ok none

/-- How a search upwards ends. -/
inductive SearchEnds (workspace : Workspace) (root : Path.Root) (place : FileTree.Location) :
    Except DiscoveryFault Path → Prop
  | found {directory : FileTree.Location} {entry : FileTree.Entry}
      (comes : workspace.ComesUpTo root place directory)
      (there : workspace.present? (Settings.pathIn root directory) = .ok (some entry)) :
      SearchEnds workspace root place (.ok (Settings.pathIn root directory))
  | refused {directory : FileTree.Location} {cause : LookupFault}
      (comes : workspace.ComesUpTo root place directory)
      (refusal : workspace.present? (Settings.pathIn root directory) =
        .error (.lookup cause (Settings.pathIn root directory).text)) :
      SearchEnds workspace root place (.error (.lookup cause (Settings.pathIn root directory).text))
  | absent (lacks : workspace.LacksSettings root place) :
      SearchEnds workspace root place (.error .notFound)

/-- Those above a place are the place itself and those above the one that holds it. -/
theorem prefix_iff_eq_or_prefix_dropLast {above : FileTree.Location} (below : place ≠ []) :
    above <+: place ↔ above = place ∨ above <+: place.dropLast := by
  obtain ⟨front, last, rfl⟩ := List.eq_nil_or_concat place |>.resolve_left below
  rw [List.concat_eq_append, List.prefix_concat_iff, List.dropLast_concat]

/-- A search comes to no more than one directory that makes a difference. -/
theorem ComesUpTo.unique {directory other : FileTree.Location}
    (one : workspace.ComesUpTo root place directory)
    (differs : workspace.present? (Settings.pathIn root directory) ≠ .ok none)
    (another : workspace.ComesUpTo root place other)
    (differs' : workspace.present? (Settings.pathIn root other) ≠ .ok none) :
    directory = other := by
  have up : directory <+: other :=
    Classical.byContradiction fun beside => differs (another.passed _ one.above beside)
  have down : other <+: directory :=
    Classical.byContradiction fun beside => differs' (one.passed _ another.above beside)
  exact up.eq_of_length_le down.length_le

/-- Where the name leads to nothing, the search goes on in the directory above. -/
theorem ComesUpTo.of_dropLast (below : place ≠ [])
    (nothing : workspace.present? (Settings.pathIn root place) = .ok none)
    {directory : FileTree.Location} (comes : workspace.ComesUpTo root place.dropLast directory) :
    workspace.ComesUpTo root place directory where
  above := comes.above.trans (List.dropLast_prefix place)
  passed nearer above beside := by
    rcases (prefix_iff_eq_or_prefix_dropLast below).mp above with rfl | above
    · exact nothing
    · exact comes.passed nearer above beside

theorem SearchEnds.of_dropLast (below : place ≠ [])
    (nothing : workspace.present? (Settings.pathIn root place) = .ok none)
    {answer : Except DiscoveryFault Path}
    (ends : workspace.SearchEnds root place.dropLast answer) :
    workspace.SearchEnds root place answer := by
  cases ends with
  | found comes there => exact .found (.of_dropLast below nothing comes) there
  | refused comes refusal => exact .refused (.of_dropLast below nothing comes) refusal
  | absent lacks =>
      refine .absent fun directory above => ?_
      rcases (prefix_iff_eq_or_prefix_dropLast below).mp above with rfl | above
      · exact nothing
      · exact lacks directory above

/-- A search upwards ends in one way only. -/
theorem SearchEnds.unique {answer other : Except DiscoveryFault Path}
    (one : workspace.SearchEnds root place answer)
    (another : workspace.SearchEnds root place other) : answer = other := by
  have differs {directory : FileTree.Location} {answer : Except DiscoveryFault (Option FileTree.Entry)}
      (told : workspace.present? (Settings.pathIn root directory) = answer)
      (made : answer ≠ .ok none) : workspace.present? (Settings.pathIn root directory) ≠ .ok none :=
    told ▸ made
  cases one with
  | found comes there =>
      cases another with
      | found comes' there' =>
          rw [comes.unique (differs there nofun) comes' (differs there' nofun)]
      | refused comes' refusal =>
          obtain rfl := comes.unique (differs there nofun) comes' (differs refusal nofun)
          cases there.symm.trans refusal
      | absent lacks => cases there.symm.trans (lacks _ comes.above)
  | refused comes refusal =>
      cases another with
      | found comes' there =>
          obtain rfl := comes.unique (differs refusal nofun) comes' (differs there nofun)
          cases refusal.symm.trans there
      | refused comes' refusal' =>
          obtain rfl := comes.unique (differs refusal nofun) comes' (differs refusal' nofun)
          exact congrArg _ (Except.error.inj (refusal.symm.trans refusal'))
      | absent lacks => cases refusal.symm.trans (lacks _ comes.above)
  | absent lacks =>
      cases another with
      | found comes there => cases there.symm.trans (lacks _ comes.above)
      | refused comes refusal => cases refusal.symm.trans (lacks _ comes.above)
      | absent => rfl

/-- The search upwards comes to an end. By induction on the directories above. -/
theorem searchEnds_nearestSettings (workspace : Workspace) (root : Path.Root)
    (place : FileTree.Location) :
    workspace.SearchEnds root place (workspace.nearestSettings root place) := by
  have here : workspace.ComesUpTo root place place :=
    ⟨List.prefix_rfl, fun _ above beside => absurd above beside⟩
  fun_induction nearestSettings workspace root place with
  | case1 place candidate fault refusal =>
      obtain ⟨cause, rfl, -⟩ := exists_lookup_of_present?_eq_error refusal
      exact .refused here refusal
  | case2 place candidate entry there => exact .found here there
  | case3 candidate nothing =>
      refine .absent fun directory above => ?_
      rw [List.prefix_nil.mp above]
      exact nothing
  | case4 place candidate nothing below ih =>
      refine .of_dropLast below nothing (ih ⟨List.prefix_rfl, ?_⟩)
      exact fun _ above beside => absurd above beside

theorem nearestSettings_eq_iff {answer : Except DiscoveryFault Path} :
    workspace.nearestSettings root place = answer ↔ workspace.SearchEnds root place answer := by
  constructor
  · rintro rfl
    exact workspace.searchEnds_nearestSettings root place
  · exact (workspace.searchEnds_nearestSettings root place).unique

/-! ## Its start -/

/-- A search that starts with a path begins at a place: where the path leads, or one above
when a file is there. -/
inductive BeginsAt (workspace : Workspace) (start : Path) : Path → Prop
  | file {place : Path} {content : Bytes} (leads : workspace.resolve start = .ok place)
      (there : workspace.present? place = .ok (some (.file content))) :
      BeginsAt workspace start place.parent
  | place {place : Path} {answer : Option FileTree.Entry}
      (leads : workspace.resolve start = .ok place) (told : workspace.present? place = .ok answer)
      (other : ∀ content, answer ≠ some (.file content)) : BeginsAt workspace start place

/-- A search does not begin: links lead in a circle from its start, or the system refuses to
look where it leads. -/
inductive Fails (workspace : Workspace) (start : Path) : DiscoveryFault → Prop
  | circle {place : Text} (circle : workspace.resolve start = .error (.circle place)) :
      Fails workspace start (.start (.circle place))
  | refused {place : Path} {cause : LookupFault} (leads : workspace.resolve start = .ok place)
      (refusal : workspace.present? place = .error (.lookup cause place.text)) :
      Fails workspace start (.lookup cause place.text)

variable {start : Path}

/-- Unless it fails, the search ends as one does upwards from the place where it begins. -/
theorem BeginsAt.findSettings_eq {place : Path} (begins : workspace.BeginsAt start place) :
    workspace.findSettings start = workspace.nearestSettings place.root place.names := by
  cases begins with
  | file leads there =>
      rw [findSettings, leads]
      dsimp only
      rw [searchStart, there]
      rfl
  | @place place answer leads told other =>
      have begun : workspace.searchStart place = .ok place := by
        rw [searchStart, told]
        rcases answer with _ | content | _
        · rfl
        · exact absurd rfl (other content)
        · rfl
      rw [findSettings, leads]
      dsimp only
      rw [begun]
      rfl

theorem Fails.findSettings_eq {fault : DiscoveryFault} (fails : workspace.Fails start fault) :
    workspace.findSettings start = .error fault := by
  cases fails with
  | circle circle => rw [findSettings, circle]
  | refused leads refusal =>
      rw [findSettings, leads]
      dsimp only
      rw [searchStart, refusal]
      rfl

theorem beginsAt_or_refused {place : Path} (leads : workspace.resolve start = .ok place) :
    (∃ first, workspace.BeginsAt start first) ∨
      ∃ cause, workspace.present? place = .error (.lookup cause place.text) := by
  cases told : workspace.present? place with
  | error fault =>
      obtain ⟨cause, rfl, -⟩ := exists_lookup_of_present?_eq_error told
      exact .inr ⟨cause, rfl⟩
  | ok answer =>
      by_cases there : ∃ content, answer = some (.file content)
      · obtain ⟨content, rfl⟩ := there
        exact .inl ⟨_, .file leads told⟩
      · exact .inl ⟨_, .place leads told (not_exists.mp there)⟩

/-- A search whose start cannot be resolved says why, and no other has such a fault. -/
theorem findSettings_eq_start_iff {fault : FileTree.ResolveFault} :
    workspace.findSettings start = .error (.start fault) ↔
      workspace.resolve start = .error fault := by
  cases led : workspace.resolve start with
  | error cause =>
      rw [findSettings, led]
      simp only [Except.error.injEq, DiscoveryFault.start.injEq]
  | ok place =>
      refine iff_of_false (fun failed => ?_) nofun
      rcases beginsAt_or_refused led with ⟨first, begins⟩ | ⟨cause, refusal⟩
      · rw [begins.findSettings_eq, nearestSettings_eq_iff] at failed
        cases failed
      · rw [Fails.findSettings_eq (.refused led refusal)] at failed
        cases failed

/-! ## Trees without links -/

end Workspace

end SourceDiagnostics
