/-
# Reading a location back

A printed location is a path text, a line and a column with colons between them. A path
may hold colons of its own, but numerals hold none, so the last two colons part the
three, however the file is named.

The path text leads back to the file. It is the path of the source, or what is left of it
in the working directory, and both mean the same path there. The line and the column
lead back to the offset, since they say as much as it does. So a location names one file
of the workspace and one offset in it.
-/

import SourceDiagnostics.Proofs.Diagnostic.Layout
import SourceDiagnostics.Proofs.Position.Coordinates
import SourceDiagnostics.Proofs.Position.Display

namespace SourceDiagnostics

namespace Text

/-- The text in front of the last colon and the text behind it. -/
def partAtColon? (text : Text) : Option (Text × Text) :=
  match text.reverse.dropWhile (· != ':') with
  | [] => none
  | _ :: front => some (front.reverse, (text.reverse.takeWhile (· != ':')).reverse)

/-- The number that a text of decimal digits spells. -/
def decimal? (text : Text) : Option Nat :=
  if text ≠ [] ∧ text.all Char.isDigit then some (Nat.ofDigitChars 10 text 0) else none

theorem partAtColon?_append {back : Text} (last : ':' ∉ back) (front : Text) :
    (front ++ ':' :: back).partAtColon? = some (front, back) := by
  have kept := bne_of_not_mem (mt List.mem_reverse.mp last)
  have whole : (front ++ ':' :: back).reverse = back.reverse ++ ':' :: front.reverse := by simp
  rw [partAtColon?, whole, List.dropWhile_append_of_pos kept, List.takeWhile_append_of_pos kept]
  simp

private theorem colon_not_mem_ofNat (n : Nat) : ':' ∉ ofNat n :=
  fun mem => absurd (isDigit_of_mem_ofNat mem) (by decide)

private theorem decimal?_ofNat (n : Nat) : (ofNat n).decimal? = some n := by
  have digits : ofNat n ≠ [] ∧ (ofNat n).all Char.isDigit = true :=
    ⟨Nat.toDigits_ne_nil, List.all_eq_true.mpr fun _ mem => isDigit_of_mem_ofNat mem⟩
  rw [decimal?, if_pos digits, ofNat, Nat.ofDigitChars_ten_toDigits]

end Text

namespace Position

open Text

/-- What a printed location tells: the text in front of its last two colons and the numbers
behind each of them. -/
def readLocation? (printed : Text) : Option (Text × Nat × Nat) := do
  let (front, column) ← printed.partAtColon?
  let (shown, line) ← front.partAtColon?
  return (shown, ← line.decimal?, ← column.decimal?)

theorem readLocation?_append (shown : Text) (line column : Nat) :
    readLocation? (shown ++ ':' :: ofNat line ++ ':' :: ofNat column) =
      some (shown, line, column) := by
  simp only [readLocation?, partAtColon?_append (colon_not_mem_ofNat _), decimal?_ofNat,
    Option.bind_eq_bind, Option.bind_some, Option.pure_def]

end Position

namespace Source

variable (source : Source)

/-- What is shown of a path means that path in the directory against which it was
shortened. -/
theorem absolute_displayPath {path : Path} (named : source.path = path.text)
    (rooted : path.isAbsolute = true) (base : Path) :
    (Path.ofText (source.displayPath base)).absolute base = path := by
  obtain rfl : Path.ofText source.path = path := by rw [named, Path.ofText_text]
  exact join_displayPath rooted base

private theorem spelled_position (offset : Int) (base : Path) :
    (source.position offset).spelled base =
      source.displayPath base ++
        ':' :: Text.ofNat (Text.newlines (source.code.take (source.clamp offset)) + 1) ++
        ':' :: Text.ofNat ((Text.lastLine (source.code.take (source.clamp offset))).length + 1) :=
  rfl

/-- Of the offsets of a text, only the one to which another is moved has its coordinates. -/
theorem coordinatesAt_eq_iff {other : Int} (mem : other ∈ source.code.offsets) (offset : Int) :
    source.coordinatesAt other = source.coordinatesAt offset ↔ other = source.clamp offset := by
  obtain ⟨n, rfl⟩ : ∃ n : Nat, other = n := ⟨other.toNat, by have := mem.1; omega⟩
  have inside : n ≤ source.code.length := by
    have := mem.2
    omega
  have moved : source.coordinatesAt offset = source.coordinatesAt (source.clamp offset) := by
    rw [coordinatesAt, coordinatesAt, position_clamp]
  constructor
  · intro same
    calc
      (n : Int) = source.code.offsetAt (source.coordinatesAt n) :=
        (source.offsetAt_coordinatesAt inside).symm
      _ = source.code.offsetAt (source.coordinatesAt (source.clamp offset)) := by rw [same, moved]
      _ = source.clamp offset := source.offsetAt_coordinatesAt (source.clamp_le offset)
  · rintro same
    rw [same, moved]

end Source

namespace Workspace

open Position (readLocation?)

/-- A printed location is read as a path text that is the source and the coordinates of
the point. -/
theorem readLocation?_location {workspace : Workspace}
    (absolute : workspace.directory.isAbsolute = true) {path : Text} {source : Source}
    (loaded : workspace.source path = .ok source) {offset : Int} {printed : Text}
    (located : (source.position offset).location workspace.directory = .ok printed) :
    ∃ shown line column,
      readLocation? printed = some (shown, line, column) ∧
      workspace.source shown = .ok source ∧
      source.coordinatesAt offset = ((line : Int), (column : Int)) := by
  refine ⟨source.displayPath workspace.directory, _, _, ?_, ?_, rfl⟩
  · rw [(Position.location_eq_ok_iff.mp located).2, source.spelled_position,
      Position.readLocation?_append]
  · rw [← loaded]
    apply source_congr
    exact source.absolute_displayPath (path_of_source_eq_ok loaded)
      (Path.isAbsolute_absolute absolute _) workspace.directory

/-- A location is printed without loss. What is read in front of its last two colons is a
path text of the same source in the same workspace, and of the offsets of the text, just
the one at which the position lies has the line and the column that are read behind them.
So a location that is printed for another source of the workspace, or for another offset,
is another one. Every point has a printed location unless the text is longer than any number
that can be printed. -/
theorem location_determines_point {workspace : Workspace}
    (absolute : workspace.directory.isAbsolute = true) {path : Text} {source : Source}
    (loaded : workspace.source path = .ok source) (offset : Int) :
    (source.code.length + 1 < 10 ^ Text.numeralLimit →
      ∃ printed, (source.position offset).location workspace.directory = .ok printed) ∧
    ∀ printed, (source.position offset).location workspace.directory = .ok printed →
      (∃ shown line column, readLocation? printed = some (shown, line, column) ∧
        workspace.source shown = .ok source ∧
        ∀ other ∈ source.code.offsets,
          (source.position other).line = line ∧ (source.position other).column = column ↔
            other = max 0 (min offset source.code.length)) ∧
      ∀ (path' : Text) (source' : Source) (offset' : Int), workspace.source path' = .ok source' →
        (source'.position offset').location workspace.directory = .ok printed →
        source' = source ∧
          max 0 (min offset' source.code.length) = max 0 (min offset source.code.length) := by
  constructor
  · intro short
    exact ⟨_, Position.location_eq_ok_iff.mpr ⟨source.writable_position short offset, rfl⟩⟩
  intro printed located
  have clamped (offset : Int) :
      (source.clamp offset : Int) = max 0 (min offset source.code.length) := by
    rw [Source.clamp]
    omega
  obtain ⟨shown, line, column, read, same, place⟩ := readLocation?_location absolute loaded located
  constructor
  · refine ⟨shown, line, column, read, same, fun other mem => ?_⟩
    rw [← clamped, ← source.coordinatesAt_eq_iff mem, place, Source.coordinatesAt, Prod.mk.injEq]
  · intro path' source' offset' loaded' located'
    obtain ⟨shown', line', column', read', same', place'⟩ :=
      readLocation?_location absolute loaded' located'
    rw [read] at read'
    cases read'
    cases same.symm.trans same'
    refine ⟨rfl, ?_⟩
    have inside : (source.clamp offset' : Int) ∈ source.code.offsets :=
      ⟨Int.natCast_nonneg _, Int.ofNat_le.mpr (source.clamp_le offset')⟩
    rw [← clamped, ← clamped, ← source.coordinatesAt_eq_iff inside, place, ← place',
      Source.coordinatesAt, Source.coordinatesAt, Source.position_clamp]

/-- The name of a file may look like a location, and its path may turn back on the way. -/
theorem location_determines_point_in_turning_path :
    let home : Path.Name := ⟨['w'], by decide⟩
    let name : Path.Name := ⟨"a:1".toList, by decide⟩
    let workspace : Workspace :=
      { tree := { files := [([home, name], Utf8.encode "x\ny".toList)] }
        directory := ⟨.single, [home]⟩ }
    let source : Source := ⟨"/w/../w/a:1".toList, true, "x\ny".toList⟩
    let printed := "../w/a:1:2:1".toList
    workspace.directory.isAbsolute = true ∧
      workspace.source "/w/../w/a:1".toList = .ok source ∧
      (source.position 2).location workspace.directory = .ok printed ∧
      readLocation? printed = some ("../w/a:1".toList, 2, 1) ∧
      workspace.source "../w/a:1".toList = .ok source ∧
      ∀ (path : Text) (other : Source) (offset : Int), workspace.source path = .ok other →
        (other.position offset).location workspace.directory = .ok printed →
        other = source ∧ max 0 (min offset 3) = 2 := by
  intro home name workspace source printed
  have absolute : workspace.directory.isAbsolute = true := rfl
  have loaded : workspace.source "/w/../w/a:1".toList = .ok source := by decide +kernel
  have shown : (source.position 2).location workspace.directory = .ok printed := by decide +kernel
  have read : readLocation? printed = some ("../w/a:1".toList, 2, 1) := by decide +kernel
  obtain ⟨-, all⟩ := location_determines_point absolute loaded 2
  obtain ⟨⟨path, line, column, told, same, _⟩, only⟩ := all printed shown
  rw [read] at told
  cases told
  exact ⟨absolute, loaded, shown, read, same, only⟩

end Workspace

end SourceDiagnostics
