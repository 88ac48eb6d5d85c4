/-
# What is wrong with settings

The settings in a document are checked in a fixed order, and the first thing that is
wrong is the fault. So a fault tells which checks were passed, and each fault is found
in exactly the documents that its own check is the first to refuse.

Two of the faults are about the shape of the settings: the table is none, or the base
directory is no text. Which documents have such a fault depends on the document alone,
and not on where its file lies. Whether links lead in a circle from a base directory
depends on both.
-/

import SourceDiagnostics.Settings

namespace SourceDiagnostics

namespace Settings

/-- The settings of a document have a fault, found first of all, in a file of the given
path that is read in `workspace`. -/
inductive HasFault (workspace : Workspace) (path : Path) (document : Toml.Table) : Fault → Prop
  | noTable {value : Toml.Value} (found : document.lookup tableKey = some value)
      (shape : ∀ table, value ≠ .table table) : HasFault workspace path document (.noTable value.kind)
  | color {table : Toml.Table} {value : Toml.Value}
      (found : document.lookup tableKey = some (.table table))
      (named : table.lookup colorKey = some value) (unknown : colorOf? (some value) = none) :
      HasFault workspace path document (.color path.text value)
  | base {table : Toml.Table} {mode : ColorMode} {value : Toml.Value}
      (found : document.lookup tableKey = some (.table table))
      (known : colorOf? (table.lookup colorKey) = some mode)
      (named : table.lookup baseKey = some value) (shape : ∀ name, value ≠ .text name) :
      HasFault workspace path document (.base value.kind)
  | baseLost {table : Toml.Table} {mode : ColorMode} {name : Text} {fault : FileTree.ResolveFault}
      (found : document.lookup tableKey = some (.table table))
      (known : colorOf? (table.lookup colorKey) = some mode)
      (named : table.lookup baseKey = some (.text name))
      (lost : workspace.resolve (path.parent.join (.ofText name)) = .error fault) :
      HasFault workspace path document (.baseLost fault)

theorem baseOf_eq_error_iff {workspace : Workspace} {path : Path} {value : Option Toml.Value}
    {fault : Fault} :
    baseOf workspace path value = .error fault ↔
      (∃ other, value = some other ∧ (∀ name, other ≠ .text name) ∧ fault = .base other.kind) ∨
      ∃ name cause, value = some (.text name) ∧
        workspace.resolve (path.parent.join (.ofText name)) = .error cause ∧
          fault = .baseLost cause := by
  rcases value with _ | value
  · simp [baseOf]
  · cases value with
    | text name =>
        rw [baseOf]
        cases lost : workspace.resolve (path.parent.join (.ofText name)) <;> simp [lost, eq_comm]
    | _ => simp [baseOf, eq_comm]

/-- A color mode that is unknown is one that is given, since an absent one is known. -/
private theorem exists_of_colorOf?_eq_none {given : Option Toml.Value}
    (unknown : colorOf? given = none) :
    ∃ value, given = some value := by
  cases given with
  | none => cases unknown
  | some value => exact ⟨value, rfl⟩

/-- The faults of a document are those that the checks find, and nothing else. -/
theorem ofDocument_eq_error_iff {workspace : Workspace} {path : Path} {document : Toml.Table}
    {fault : Fault} :
    ofDocument workspace path document = .error fault ↔ HasFault workspace path document fault := by
  constructor
  · intro fails
    rw [ofDocument] at fails
    split at fails
    next => cases fails
    next table found =>
      split at fails
      next unknown =>
        obtain ⟨value, named⟩ := exists_of_colorOf?_eq_none unknown
        rw [named] at unknown fails
        cases fails
        exact .color found named unknown
      next mode known =>
        split at fails
        next based =>
          cases fails
          rcases baseOf_eq_error_iff.mp based with
            ⟨value, named, shape, rfl⟩ | ⟨name, cause, named, lost, rfl⟩
          · exact .base found known named shape
          · exact .baseLost found known named lost
        next => cases fails
    next value other found =>
      cases fails
      exact .noTable found other
  · intro has
    rw [ofDocument]
    cases has with
    | @noTable value found shape =>
        rw [found]
        cases value with
        | table table => exact absurd rfl (shape table)
        | _ => rfl
    | color found named unknown => simp only [found, named, unknown, Option.getD_some]
    | base found known named shape =>
        simp only [found, known, baseOf_eq_error_iff.mpr (.inl ⟨_, named, shape, rfl⟩)]
    | baseLost found known named lost =>
        simp only [found, known, baseOf_eq_error_iff.mpr (.inr ⟨_, _, named, lost, rfl⟩)]

/-- A fault of the shape of the settings. -/
def Fault.IsShape (fault : Fault) : Prop := ∃ kind, fault = .noTable kind ∨ fault = .base kind

/-- The settings have the wrong shape: they are not in a table, or behind a color mode
that is in order, the base directory is no text. -/
def Misshapen (document : Toml.Table) : Prop :=
  ∃ value, document.lookup tableKey = some value ∧
    ∀ table, value = .table table →
      (colorOf? (table.lookup colorKey)).isSome ∧
        ∃ base, table.lookup baseKey = some base ∧ ∀ name, base ≠ .text name

/-- Whether the shape is wrong does not depend on where the file is. -/
theorem hasFault_isShape_iff {workspace : Workspace} {path : Path} {document : Toml.Table} :
    (∃ fault, HasFault workspace path document fault ∧ fault.IsShape) ↔ Misshapen document := by
  constructor
  · rintro ⟨fault, has, kind, rfl | rfl⟩
    · cases has with
      | noTable found shape => exact ⟨_, found, fun table same => absurd same (shape table)⟩
    · cases has with
      | base found known named shape =>
          refine ⟨_, found, fun table same => ?_⟩
          cases same
          exact ⟨Option.isSome_of_eq_some known, _, named, shape⟩
  · rintro ⟨value, found, shape⟩
    by_cases isTable : ∃ table, value = .table table
    · obtain ⟨table, rfl⟩ := isTable
      obtain ⟨known, base, named, shape⟩ := shape table rfl
      obtain ⟨mode, known⟩ := Option.isSome_iff_exists.mp known
      exact ⟨_, .base found known named shape, _, .inr rfl⟩
    · exact ⟨_, .noTable found fun table same => isTable ⟨table, same⟩, _, .inl rfl⟩

/-- Behind a color mode that is in order, the base directory is a text from which links lead
in a circle. -/
def LeadsInCircle (workspace : Workspace) (path : Path) (document : Toml.Table) : Prop :=
  ∃ place, HasFault workspace path document (.baseLost (.circle place))

end Settings

namespace Workspace

/-- The file of the given path holds a document. -/
def Holds (workspace : Workspace) (path : Path) (document : Toml.Table) : Prop :=
  ∃ text, workspace.text path.text = .ok text ∧ Toml.document text = .ok document

/-- Reading settings fails for a fault of the file, of its document or of what the
document says. -/
theorem settings_eq_error_iff {workspace : Workspace} {path : Path} {fault : Settings.Fault} :
    workspace.settings path = .error fault ↔
      (∃ cause, workspace.text path.text = .error cause ∧ fault = .reading cause) ∨
      (∃ text cause, workspace.text path.text = .ok text ∧ Toml.document text = .error cause ∧
        fault = .document cause) ∨
      ∃ document, workspace.Holds path document ∧
        Settings.HasFault workspace path document fault := by
  rw [settings]
  cases read : workspace.text path.text with
  | error cause => simp [Holds, read, eq_comm]
  | ok text =>
      cases parsed : Toml.document text with
      | error cause => simp [Holds, read, parsed, eq_comm]
      | ok document => simp [Holds, read, parsed, Settings.ofDocument_eq_error_iff]

/-- Reading settings fails for their shape exactly if the file holds a document in which it
is wrong. -/
theorem settings_isShape_iff {workspace : Workspace} {path : Path} :
    (∃ fault, workspace.settings path = .error fault ∧ fault.IsShape) ↔
      ∃ document, workspace.Holds path document ∧ Settings.Misshapen document := by
  constructor
  · rintro ⟨fault, fails, shape⟩
    rcases settings_eq_error_iff.mp fails with ⟨_, _, rfl⟩ | ⟨_, _, _, _, rfl⟩ | ⟨document, holds, has⟩
    · obtain ⟨kind, same | same⟩ := shape <;> cases same
    · obtain ⟨kind, same | same⟩ := shape <;> cases same
    · exact ⟨document, holds, Settings.hasFault_isShape_iff.mp ⟨fault, has, shape⟩⟩
  · rintro ⟨document, holds, misshapen⟩
    obtain ⟨fault, has, shape⟩ := Settings.hasFault_isShape_iff.mpr misshapen
    exact ⟨fault, settings_eq_error_iff.mpr (.inr (.inr ⟨document, holds, has⟩)), shape⟩

/-- It fails for a circle exactly if the file holds a document whose base directory leads into
one. -/
theorem settings_circle_iff {workspace : Workspace} {path : Path} :
    (∃ place, workspace.settings path = .error (.baseLost (.circle place))) ↔
      ∃ document, workspace.Holds path document ∧
        Settings.LeadsInCircle workspace path document := by
  simp only [settings_eq_error_iff, Settings.LeadsInCircle]
  constructor
  · rintro ⟨place, ⟨_, _, same⟩ | ⟨_, _, _, _, same⟩ | ⟨document, holds, has⟩⟩
    · cases same
    · cases same
    · exact ⟨document, holds, place, has⟩
  · rintro ⟨document, holds, place, has⟩
    exact ⟨place, .inr (.inr ⟨document, holds, has⟩)⟩

end Workspace

end SourceDiagnostics
