/-
# Values that are looked at

Of a value, settings need to know whether it counts as true and whether it can be shown. Few
values count as false: the truth value, zero, and what is empty. Nearly every value can be
shown; one that cannot holds a whole number of too many digits, itself or inside an array or a
table, however deep.
-/

import SourceDiagnostics.Toml.Value

namespace SourceDiagnostics.Toml.Value

/-- The values that do not count as true. -/
inductive IsFalse : Value → Prop
  | boolean : IsFalse (.boolean false)
  | integer : IsFalse (.integer 0)
  | float (negative : Bool) (exponent : Int) : IsFalse (.float (.finite negative 0 exponent))
  | text : IsFalse (.text [])
  | array : IsFalse (.array [])
  | table : IsFalse (.table [])

theorem isTrue_eq_false_iff {value : Value} : value.isTrue = false ↔ value.IsFalse := by
  constructor
  · intro counts
    cases value with
    | text value =>
        obtain rfl : value = [] := by simpa [isTrue] using counts
        exact .text
    | integer value =>
        obtain rfl : value = 0 := by simpa [isTrue] using counts
        exact .integer
    | float value =>
        cases value with
        | finite negative mantissa exponent =>
            obtain rfl : mantissa = 0 := by simpa [isTrue, Binary.isZero] using counts
            exact .float negative exponent
        | infinite | undefined => cases counts
    | boolean value =>
        obtain rfl : value = false := by simpa [isTrue] using counts
        exact .boolean
    | array items =>
        obtain rfl : items = [] := by simpa [isTrue] using counts
        exact .array
    | table entries =>
        obtain rfl : entries = [] := by simpa [isTrue] using counts
        exact .table
    | date | time | dateTime => cases counts
  · intro counts
    cases counts <;> rfl

theorem isTrue_iff {value : Value} : value.isTrue = true ↔ ¬ value.IsFalse := by
  rw [← isTrue_eq_false_iff, Bool.not_eq_false]

/-- A whole number stands in a value: it is the value, or stands in an element of an array or
under a key of a table. -/
inductive Contains (number : Int) : Value → Prop
  | integer : Contains number (.integer number)
  | array {items : List Value} {item : Value} (among : item ∈ items)
      (inside : Contains number item) : Contains number (.array items)
  | table {entries : Table} {entry : Text × Value} (among : entry ∈ entries)
      (inside : Contains number entry.2) : Contains number (.table entries)

/-- A whole number of so many digits that it cannot be shown stands in a value. -/
def ContainsLong (value : Value) : Prop :=
  ∃ number, value.Contains number ∧ digitLimit < (Text.ofNat number.natAbs).length

private theorem anyLongItem_iff {items : List Value} :
    anyLongItem items = true ↔ ∃ item ∈ items, item.hasLongInteger = true := by
  induction items with
  | nil => simp [anyLongItem]
  | cons item items ih => simp [anyLongItem, ih]

private theorem anyLongEntry_iff {entries : Table} :
    anyLongEntry entries = true ↔ ∃ entry ∈ entries, entry.2.hasLongInteger = true := by
  induction entries with
  | nil => simp [anyLongEntry]
  | cons entry entries ih => simp [anyLongEntry, ih]

theorem hasLongInteger_of_contains {value : Value} {number : Int} (inside : value.Contains number)
    (long : digitLimit < (Text.ofNat number.natAbs).length) : value.hasLongInteger = true := by
  induction inside with
  | integer =>
      rw [hasLongInteger]
      exact decide_eq_true long
  | array among _ ih =>
      rw [hasLongInteger, anyLongItem_iff]
      exact ⟨_, among, ih⟩
  | table among _ ih =>
      rw [hasLongInteger, anyLongEntry_iff]
      exact ⟨_, among, ih⟩

mutual

theorem containsLong_of_hasLongInteger :
    ∀ value : Value, value.hasLongInteger = true → value.ContainsLong
  | .integer number, long => by
      rw [hasLongInteger] at long
      exact ⟨number, .integer, of_decide_eq_true long⟩
  | .array items, long => by
      rw [hasLongInteger] at long
      obtain ⟨item, among, number, inside, long⟩ := exists_containsLong_of_anyLongItem items long
      exact ⟨number, .array among inside, long⟩
  | .table entries, long => by
      rw [hasLongInteger] at long
      obtain ⟨entry, among, number, inside, long⟩ :=
        exists_containsLong_of_anyLongEntry entries long
      exact ⟨number, .table among inside, long⟩

theorem exists_containsLong_of_anyLongItem :
    ∀ items : List Value, anyLongItem items = true → ∃ item ∈ items, item.ContainsLong
  | item :: items, long => by
      rw [anyLongItem, Bool.or_eq_true] at long
      rcases long with here | later
      · exact ⟨item, List.mem_cons_self, containsLong_of_hasLongInteger item here⟩
      · obtain ⟨other, among, long⟩ := exists_containsLong_of_anyLongItem items later
        exact ⟨other, List.mem_cons_of_mem _ among, long⟩

theorem exists_containsLong_of_anyLongEntry :
    ∀ entries : Table, anyLongEntry entries = true → ∃ entry ∈ entries, entry.2.ContainsLong
  | (key, value) :: entries, long => by
      rw [anyLongEntry, Bool.or_eq_true] at long
      rcases long with here | later
      · exact ⟨_, List.mem_cons_self, containsLong_of_hasLongInteger value here⟩
      · obtain ⟨other, among, long⟩ := exists_containsLong_of_anyLongEntry entries later
        exact ⟨other, List.mem_cons_of_mem _ among, long⟩

end

/-- A value cannot be shown exactly if a whole number of too many digits stands in it. -/
theorem hasLongInteger_iff {value : Value} :
    value.hasLongInteger = true ↔ value.ContainsLong :=
  ⟨containsLong_of_hasLongInteger value, fun ⟨_, inside, long⟩ =>
    hasLongInteger_of_contains inside long⟩

end SourceDiagnostics.Toml.Value
