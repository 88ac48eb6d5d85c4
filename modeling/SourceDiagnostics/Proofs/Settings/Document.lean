/-
# What a document comes to

Settings are read from at most three keys of one table. This module says what a document comes
to without going through the checks: the conditions under which it has each of the faults, in
the order in which they hide one another, and those under which there are settings, and which.
Every document meets just one of these conditions.

Whatever else a document holds, in that table or outside it, changes nothing. A base
directory is the place to which its path leads, links included; where there are none, that is
a matter of names alone.

A fault of the color mode is about a file, and its message names the file and shows the value
that is there. One kind of value cannot be shown: one in which a whole number stands that has
too many digits. The message about it is not about the file at all, and does not name it.
-/

import SourceDiagnostics.Proofs.Settings
import SourceDiagnostics.Proofs.Text.Utf8
import SourceDiagnostics.Proofs.Toml.Document
import SourceDiagnostics.Proofs.Toml.Value
import SourceDiagnostics.Proofs.Workspace

namespace SourceDiagnostics

namespace Settings

/-- A table names a color mode, if only by naming none, which names the automatic one. -/
def NamesMode (table : Toml.Table) (mode : ColorMode) : Prop :=
  (table.lookup colorKey).getD (.text ColorMode.auto.name) = .text mode.name

/-- The base directory for a value in a file of the given path. A text is meant from the
directory of the file, and it is the place to which it leads. -/
inductive HasBase (workspace : Workspace) (path : Path) : Option Toml.Value → Option Path → Prop
  | absent : HasBase workspace path none none
  | text {name : Text} {base : Path}
      (leads : workspace.resolve (path.parent.join (.ofText name)) = .ok base) :
      HasBase workspace path (some (.text name)) (some base)

/-- What the document of a file comes to. A case is about documents to which those before it
do not apply. -/
inductive ComesTo (workspace : Workspace) (path : Path) (document : Toml.Table) :
    Except Fault Settings → Prop
  | defaults (absent : document.lookup tableKey = none) :
      ComesTo workspace path document (.ok { color := .auto, emphasize := false, base := none })
  | noTable {value : Toml.Value} (found : document.lookup tableKey = some value)
      (shape : ∀ table, value ≠ .table table) :
      ComesTo workspace path document (.error (.noTable value.kind))
  | color {table : Toml.Table} {value : Toml.Value}
      (found : document.lookup tableKey = some (.table table))
      (named : table.lookup colorKey = some value) (unknown : ∀ mode, ¬ NamesMode table mode) :
      ComesTo workspace path document (.error (.color path.text value))
  | base {table : Toml.Table} {mode : ColorMode} {value : Toml.Value}
      (found : document.lookup tableKey = some (.table table)) (known : NamesMode table mode)
      (named : table.lookup baseKey = some value) (shape : ∀ name, value ≠ .text name) :
      ComesTo workspace path document (.error (.base value.kind))
  | baseNul {table : Toml.Table} {mode : ColorMode} {name : Text}
      (found : document.lookup tableKey = some (.table table)) (known : NamesMode table mode)
      (named : table.lookup baseKey = some (.text name))
      (nul : (path.parent.join (.ofText name)).hasNul = true) :
      ComesTo workspace path document (.error (.baseLost .embeddedNul))
  | baseCircle {table : Toml.Table} {mode : ColorMode} {name place : Text}
      (found : document.lookup tableKey = some (.table table)) (known : NamesMode table mode)
      (named : table.lookup baseKey = some (.text name))
      (circle : workspace.resolve (path.parent.join (.ofText name)) = .error (.circle place)) :
      ComesTo workspace path document (.error (.baseLost (.circle place)))
  | settings {table : Toml.Table} {settings : Settings}
      (found : document.lookup tableKey = some (.table table))
      (known : NamesMode table settings.color)
      (emphasis : settings.emphasize = true ↔
        ∃ value, table.lookup emphasizeKey = some value ∧ ¬ value.IsFalse)
      (based : HasBase workspace path (table.lookup baseKey) settings.base) :
      ComesTo workspace path document (.ok settings)

/-- Two documents say the same about settings: they have the same entry, or tables with the
same three keys. -/
inductive Agree (first second : Toml.Table) : Prop
  | same (same : first.lookup tableKey = second.lookup tableKey)
  | tables {one other : Toml.Table} (found : first.lookup tableKey = some (.table one))
      (found' : second.lookup tableKey = some (.table other))
      (keys : ∀ key ∈ [colorKey, emphasizeKey, baseKey], one.lookup key = other.lookup key)

/-! ## The three keys -/

theorem ofName?_eq_some_iff {name : Text} {mode : ColorMode} :
    ColorMode.ofName? name = some mode ↔ name = mode.name := by
  constructor
  · intro found
    rw [ColorMode.ofName?] at found
    have named := List.find?_some found
    exact (of_decide_eq_true named).symm
  · rintro rfl
    cases mode <;> decide

theorem colorOf?_eq_some_iff {table : Toml.Table} {mode : ColorMode} :
    colorOf? (table.lookup colorKey) = some mode ↔ NamesMode table mode := by
  rw [NamesMode]
  cases table.lookup colorKey with
  | none =>
      rw [Option.getD_none, Toml.Value.text.injEq, ← ofName?_eq_some_iff]
      rfl
  | some value =>
      rw [Option.getD_some]
      cases value with
      | text name => rw [colorOf?, ofName?_eq_some_iff, Toml.Value.text.injEq]
      | _ => exact iff_of_false nofun nofun

theorem colorOf?_eq_none_iff {table : Toml.Table} :
    colorOf? (table.lookup colorKey) = none ↔ ∀ mode, ¬ NamesMode table mode := by
  rw [Option.eq_none_iff_forall_not_mem]
  exact forall_congr' fun mode => not_congr (Option.mem_def.trans colorOf?_eq_some_iff)

theorem emphasized_iff {table : Toml.Table} :
    ((table.lookup emphasizeKey).map Toml.Value.isTrue).getD false = true ↔
      ∃ value, table.lookup emphasizeKey = some value ∧ ¬ value.IsFalse := by
  cases table.lookup emphasizeKey <;> simp [Toml.Value.isTrue_iff]

section

variable {workspace : Workspace} {path : Path} {document : Toml.Table}

theorem baseOf_eq_ok_iff {value : Option Toml.Value} {base : Option Path} :
    baseOf workspace path value = .ok base ↔ HasBase workspace path value base := by
  constructor
  · intro given
    rcases value with _ | value
    · cases given
      exact .absent
    · cases value with
      | text name =>
          rw [baseOf] at given
          split at given
          next place led =>
            cases given
            exact .text led
          next => cases given
      | _ => cases given
  · intro has
    cases has with
    | absent => rfl
    | text leads => rw [baseOf, leads]

/-- Where there is a base directory, it starts at a root and goes straight to its place. -/
theorem HasBase.isAbsolute (rooted : workspace.directory.isAbsolute = true)
    {value : Option Toml.Value} {base : Path} (has : HasBase workspace path value (some base)) :
    base.isAbsolute = true ∧ ∀ name ∈ base.names, name.text ≠ ['.'] ∧ name.text ≠ ['.', '.'] := by
  cases has with
  | text leads =>
      refine ⟨FileTree.isAbsolute_of_resolve_eq_ok rooted leads, fun name among =>
        ⟨name.proper.2.1, fun back => FileTree.parent_not_mem_of_resolve_eq_ok leads ?_⟩⟩
      obtain rfl : name = .parent := by
        cases name
        cases back
        rfl
      exact among

/-! ## Documents -/

/-- The settings of a document, when there are any. -/
theorem ofDocument_eq_ok_iff {settings : Settings} :
    ofDocument workspace path document = .ok settings ↔
      ComesTo workspace path document (.ok settings) := by
  constructor
  · intro read
    rw [ofDocument] at read
    split at read
    next absent =>
      cases read
      exact .defaults absent
    next table found =>
      split at read
      next => cases read
      next mode known =>
        split at read
        next => cases read
        next base based =>
          cases read
          exact .settings found (colorOf?_eq_some_iff.mp known) emphasized_iff
            (baseOf_eq_ok_iff.mp based)
    next => cases read
  · intro comes
    obtain ⟨color, emphasize, base⟩ := settings
    rw [ofDocument]
    cases comes with
    | defaults absent => rw [absent]
    | @settings table _ found known emphasis based =>
        have emphasized : ((table.lookup emphasizeKey).map Toml.Value.isTrue).getD false = emphasize :=
          Bool.eq_iff_iff.mpr (emphasized_iff.trans emphasis.symm)
        simp only [found, colorOf?_eq_some_iff.mpr known, baseOf_eq_ok_iff.mpr based,
          emphasized]

/-- The fault of a document, when it has one. -/
theorem ofDocument_eq_error_iff_comesTo (clean : workspace.directory.hasNul = false)
    {fault : Fault} :
    ofDocument workspace path document = .error fault ↔
      ComesTo workspace path document (.error fault) := by
  rw [ofDocument_eq_error_iff]
  constructor
  · intro has
    cases has with
    | noTable found shape => exact .noTable found shape
    | color found named unknown =>
        rw [← named] at unknown
        exact .color found named (colorOf?_eq_none_iff.mp unknown)
    | base found known named shape =>
        exact .base found (colorOf?_eq_some_iff.mp known) named shape
    | @baseLost _ _ _ cause found known named lost =>
        have known' := colorOf?_eq_some_iff.mp known
        cases cause with
        | embeddedNul =>
            exact .baseNul found known' named ((Workspace.resolve_eq_embeddedNul_iff clean).mp lost)
        | circle place => exact .baseCircle found known' named lost
  · intro comes
    cases comes with
    | noTable found shape => exact .noTable found shape
    | color found named unknown =>
        rw [← colorOf?_eq_none_iff, named] at unknown
        exact .color found named unknown
    | base found known named shape =>
        exact .base found (colorOf?_eq_some_iff.mpr known) named shape
    | baseNul found known named nul =>
        exact .baseLost found (colorOf?_eq_some_iff.mpr known) named
          ((Workspace.resolve_eq_embeddedNul_iff clean).mpr nul)
    | baseCircle found known named circle =>
        exact .baseLost found (colorOf?_eq_some_iff.mpr known) named circle

/-- Documents that say the same about settings come to the same where paths lead to the same
places. -/
theorem ofDocument_congr {other : Workspace} {document' : Toml.Table}
    (leads : ∀ given, other.resolve given = workspace.resolve given)
    (agree : Agree document document') :
    ofDocument other path document' = ofDocument workspace path document := by
  have bases : baseOf other path = baseOf workspace path := by
    funext value
    rcases value with _ | value
    · rfl
    · cases value <;> simp only [baseOf, leads]
  cases agree with
  | same same => rw [ofDocument, ofDocument, same, bases]
  | tables found found' keys =>
      simp only [List.forall_mem_cons] at keys
      obtain ⟨color, emphasize, base, -⟩ := keys
      simp only [ofDocument, found, found', color, emphasize, base, bases]

end

variable (malformed : Text)

/-- The message about a color mode names the file and shows the value, if it can be shown. -/
theorem message_color_of_shown {value : Toml.Value} (shown : ¬ value.ContainsLong) (path : Text) :
    (Fault.color path value).message malformed =
      path ++ ": invalid color mode ".toList ++ value.shown ++
        " (expected auto, always or never)".toList :=
  if_neg (mt Toml.Value.hasLongInteger_iff.mp shown)

/-- If it cannot be shown, the message is the same for every file. -/
theorem message_color_of_containsLong {value : Toml.Value} (long : value.ContainsLong)
    (path : Text) : (Fault.color path value).message malformed = longIntegerMessage :=
  if_pos (Toml.Value.hasLongInteger_iff.mpr long)

/-! ## A color mode in base sixteen -/

section

open Toml

/-- A color mode, written on the only line of a document, up to its value. -/
def colorEntry : Text := "render.color = ".toList

private theorem key_colorEntry (text : Text) :
    key (colorEntry ++ text) = .ok ([tableKey, colorKey], '=' :: ' ' :: text) := rfl

private theorem write?_color {value : Value} (scalar : value.isContainer = false) :
    Draft.write? {} [tableKey, colorKey] value =
      some ⟨[(tableKey, .table [(colorKey, value)])], { pending := [[tableKey]] }, []⟩ := by
  cases value with
  | array | table => cases scalar
  | _ => rfl

variable {c : Char} {digits : Text} (all : ∀ d ∈ c :: digits, isHexadecimal d = true)

include all

private theorem line_color (fuel : Nat) :
    line (fuel + 2) {} (colorEntry ++ '0' :: 'x' :: c :: digits) =
      .ok (⟨[(tableKey, .table [(colorKey, .integer (valueIn 16 (c :: digits)))])],
        { pending := [[tableKey]] }, []⟩, []) :=
  line_of_entry (by decide)
    (entryWithin_of_value (key_colorEntry _) (valueWithin_hexadecimal fuel all)) (write?_color rfl)

/-- A whole number in base sixteen can stand where a color mode is named, however many digits it
has. -/
theorem document_color :
    document (colorEntry ++ '0' :: 'x' :: c :: digits) =
      .ok [(tableKey, .table [(colorKey, .integer (valueIn 16 (c :: digits)))])] := by
  have digit : '\r' ∉ c :: digits := fun among => absurd (all _ among) (by decide)
  have free : '\r' ∉ colorEntry ++ '0' :: 'x' :: c :: digits := by
    rw [List.mem_append, List.mem_cons, List.mem_cons, not_or, not_or, not_or]
    exact ⟨by decide, by decide, by decide, digit⟩
  exact document_of_line free rfl (List.cons_ne_nil _ _) (line_color all)

end

end Settings

namespace Workspace

theorem text_of_bytes {workspace : Workspace} {path written : Text}
    (bytes : workspace.bytes path = .ok (Utf8.encode written)) :
    workspace.text path = .ok written := by
  rw [text, bytes]
  dsimp only
  rw [Utf8.decode_encode]

theorem settings_of_holds {workspace : Workspace} {path : Path} {document : Toml.Table}
    (holds : workspace.Holds path document) :
    workspace.settings path = Settings.ofDocument workspace path document := by
  obtain ⟨text, read, parsed⟩ := holds
  rw [settings, read]
  dsimp only
  rw [parsed]

/-- Without links, a path leads to the place that is left when its steps back are taken out,
and it never leads in a circle. -/
theorem resolve_of_unlinked {workspace : Workspace} (clean : workspace.directory.hasNul = false)
    (unlinked : workspace.tree.links = []) (given : Path) :
    (∀ place, workspace.resolve given = .ok place ↔
      given.hasNul = false ∧ given.Resolves workspace.directory place) ∧
    ∀ place, workspace.resolve given ≠ .error (.circle place) := by
  constructor
  · intro place
    rw [← Path.hasNul_absolute clean given]
    exact FileTree.resolve_eq_ok_iff_of_unlinked unlinked
  · exact FileTree.resolve_ne_circle_of_unlinked unlinked

/-- Without links, only the working directory decides where a path leads. -/
theorem resolve_congr_of_unlinked {workspace other : Workspace}
    (same : other.directory = workspace.directory) (unlinked : workspace.tree.links = [])
    (unlinked' : other.tree.links = []) (given : Path) :
    other.resolve given = workspace.resolve given := by
  rw [resolve, resolve, same]
  cases nul : (given.absolute workspace.directory).hasNul with
  | true =>
      rw [FileTree.resolve_eq_embeddedNul_iff.mpr nul, FileTree.resolve_eq_embeddedNul_iff.mpr nul]
  | false =>
      rw [(FileTree.resolve_eq_ok_iff_of_unlinked unlinked).mpr ⟨nul, Path.resolves_iff.mpr rfl⟩,
        (FileTree.resolve_eq_ok_iff_of_unlinked unlinked').mpr ⟨nul, Path.resolves_iff.mpr rfl⟩]

/-- What a settings file that holds a document comes to, when it is read from a directory whose
path starts at a root and has no NUL character: one thing, told by the conditions that the
document meets. A base directory starts at a root and has no name that stays or turns back.
Where there are no links, it is the place to which the names lead, and none leads in a circle.
A fault of the color mode names the file, unless a whole number of too many digits stands in
the value, and then it names no file. A file of the same path whose document says the same
about settings comes to the same where paths lead to the same places, as they do from the same
directory where there are no links. -/
theorem settings_comesTo {workspace : Workspace} (rooted : workspace.directory.isAbsolute = true)
    (clean : workspace.directory.hasNul = false) {path : Path} {document : Toml.Table}
    (holds : workspace.Holds path document) :
    (∀ answer, workspace.settings path = answer ↔
      Settings.ComesTo workspace path document answer) ∧
    (∀ settings base, workspace.settings path = .ok settings → settings.base = some base →
      base.isAbsolute = true ∧
        ∀ name ∈ base.names, name.text ≠ ['.'] ∧ name.text ≠ ['.', '.']) ∧
    (workspace.tree.links = [] → ∀ given : Path,
      (∀ place, workspace.resolve given = .ok place ↔
        given.hasNul = false ∧ given.Resolves workspace.directory place) ∧
      ∀ place, workspace.resolve given ≠ .error (.circle place)) ∧
    (∀ malformed text value, workspace.settings path = .error (.color text value) →
      (¬ value.ContainsLong → (Settings.Fault.color text value).message malformed =
        path.text ++ ": invalid color mode ".toList ++ value.shown ++
          " (expected auto, always or never)".toList) ∧
      (value.ContainsLong →
        (Settings.Fault.color text value).message malformed = Settings.longIntegerMessage)) ∧
    ∀ (other : Workspace) (document' : Toml.Table), other.directory = workspace.directory →
      (∀ given, other.resolve given = workspace.resolve given) ∨
        workspace.tree.links = [] ∧ other.tree.links = [] →
      other.Holds path document' → Settings.Agree document document' →
        other.settings path = workspace.settings path := by
  have comes (answer : Except Settings.Fault Settings) : workspace.settings path = answer ↔
      Settings.ComesTo workspace path document answer := by
    rw [settings_of_holds holds]
    cases answer with
    | error fault => exact Settings.ofDocument_eq_error_iff_comesTo clean
    | ok settings => exact Settings.ofDocument_eq_ok_iff
  refine ⟨comes, fun settings base read chosen => ?_, resolve_of_unlinked clean,
    fun malformed text value read => ?_, fun other document' same leads holds' agree => ?_⟩
  · cases (comes _).mp read with
    | defaults => cases chosen
    | settings _ _ _ based =>
        rw [chosen] at based
        exact based.isAbsolute rooted
  · cases (comes _).mp read with
    | color =>
        exact ⟨fun shown => Settings.message_color_of_shown malformed shown _,
          fun long => Settings.message_color_of_containsLong malformed long _⟩
  · have leads : ∀ given, other.resolve given = workspace.resolve given :=
      leads.elim id fun unlinked => resolve_congr_of_unlinked same unlinked.1 unlinked.2
    rw [settings_of_holds holds, settings_of_holds holds', Settings.ofDocument_congr leads agree]

/-- A base directory that turns back leads straight to its place, and the color mode that is not
given is the automatic one. -/
theorem settings_comesTo_turning_base :
    let top : Path.Name := ⟨['p'], by decide⟩
    let document := "render.base_dir = '../b/./c/..'".toList
    let path : Path := ⟨.single, [top, Settings.fileName]⟩
    let workspace : Workspace :=
      ⟨{ files := [(path.names, Utf8.encode document)] }, ⟨.single, [top]⟩⟩
    workspace.directory.isAbsolute = true ∧ workspace.directory.hasNul = false ∧
      workspace.Holds path
        [(Settings.tableKey, .table [(Settings.baseKey, .text "../b/./c/..".toList)])] ∧
      workspace.settings path = .ok { base := some (.ofText "/b".toList) } := by
  intro top document path workspace
  let base : Path := .ofText "/b".toList
  have rooted : workspace.directory.isAbsolute = true := rfl
  have clean : workspace.directory.hasNul = false := by decide
  have parsed : Toml.document document =
      .ok [(Settings.tableKey, .table [(Settings.baseKey, .text "../b/./c/..".toList)])] := by
    decide +kernel
  have opens (content : Bytes) :
      (⟨{ files := [(path.names, content)] }, ⟨.single, [top]⟩⟩ : Workspace).bytes path.text =
        .ok content :=
    rfl
  have holds : workspace.Holds path
      [(Settings.tableKey, .table [(Settings.baseKey, .text "../b/./c/..".toList)])] :=
    ⟨document, text_of_bytes (opens _), parsed⟩
  obtain ⟨comes, -, lexical, -⟩ := settings_comesTo rooted clean holds
  have leads : workspace.resolve (path.parent.join (.ofText "../b/./c/..".toList)) = .ok base :=
    ((lexical rfl _).1 base).mpr ⟨by decide +kernel, Path.resolves_iff.mpr (by decide +kernel)⟩
  refine ⟨rooted, clean, holds, (comes _).mpr (.settings rfl rfl ?_ (.text leads))⟩
  constructor
  · intro emphasized
    cases emphasized
  · rintro ⟨value, named, -⟩
    cases named

/-- A color mode that is a whole number of too many digits is a fault of the color mode, but the
message does not name the file. -/
theorem long_color_names_no_file :
    let digits := '1' :: List.replicate 3600 '0'
    let text := Settings.colorEntry ++ '0' :: 'x' :: digits
    let value := Toml.Value.integer (Toml.valueIn 16 digits)
    let path : Path := ⟨.single, [Settings.fileName]⟩
    let workspace : Workspace := { tree := { files := [(path.names, Utf8.encode text)] } }
    workspace.Holds path [(Settings.tableKey, .table [(Settings.colorKey, value)])] ∧
      workspace.settings path = .error (.color path.text value) ∧
      ∀ malformed, ¬ path.text <:+: (Settings.Fault.color path.text value).message malformed := by
  intro digits text value path workspace
  have parsed : Toml.document text =
      .ok [(Settings.tableKey, .table [(Settings.colorKey, value)])] := by
    refine Settings.document_color fun d among => ?_
    rcases List.mem_cons.mp among with rfl | zero
    · decide
    · rw [List.eq_of_mem_replicate zero]
      decide
  have opens (content : Bytes) :
      (⟨{ files := [(path.names, content)] }, .top⟩ : Workspace).bytes path.text = .ok content :=
    rfl
  have had : workspace.text path.text = .ok text := text_of_bytes (opens _)
  have holds : workspace.Holds path [(Settings.tableKey, .table [(Settings.colorKey, value)])] :=
    ⟨text, had, parsed⟩
  refine ⟨holds, ?_, fun malformed => ?_⟩
  · rw [settings_of_holds holds]
    rfl
  · rw [Settings.message_color_of_containsLong malformed
      (Toml.containsLong_hexadecimal (by rw [List.length_replicate]))]
    decide +kernel

end Workspace

end SourceDiagnostics
