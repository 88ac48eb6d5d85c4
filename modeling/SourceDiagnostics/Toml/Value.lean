/-
# Values of a TOML document

A document is a table: keys with values, in the order in which they were first
written. A value is a text, a number, a truth value, a date or time, an array or
a table again.

Two views of a value serve the settings that are read from documents: whether
it counts as true where a truth value is wanted, and how it is shown in a message
about it. Values can be compared, and so can what is made of them.
-/

import SourceDiagnostics.Decimal
import SourceDiagnostics.Text.Quoted
import SourceDiagnostics.Toml.Calendar

namespace SourceDiagnostics.Toml

/-- A value. Next to a date with a time stand the minutes from the reference meridian, when
they are given. -/
inductive Value where
  | text (value : Text)
  | integer (value : Int)
  | float (value : Binary)
  | boolean (value : Bool)
  | date (value : Date)
  | time (value : Time)
  | dateTime (date : Date) (time : Time) (zone : Option Int)
  | array (items : List Value)
  | table (entries : List (Text × Value))

/-- Keys with their values, in the order of their first mention. -/
abbrev Table := List (Text × Value)

/-- The kinds of values. -/
inductive Kind where
  | text
  | integer
  | float
  | boolean
  | date
  | time
  | dateTime
  | array
  | table
deriving DecidableEq, Repr

/-- The name of a kind in messages. -/
def Kind.name : Kind → Text
  | .text => "str".toList
  | .integer => "int".toList
  | .float => "float".toList
  | .boolean => "bool".toList
  | .date => "datetime.date".toList
  | .time => "datetime.time".toList
  | .dateTime => "datetime.datetime".toList
  | .array => "list".toList
  | .table => "dict".toList

namespace Value

/-- The kind of a value. -/
def kind : Value → Kind
  | .text _ => .text
  | .integer _ => .integer
  | .float _ => .float
  | .boolean _ => .boolean
  | .date _ => .date
  | .time _ => .time
  | .dateTime _ _ _ => .dateTime
  | .array _ => .array
  | .table _ => .table

/-- Whether a value counts as true. The false values are `false`, zero of either
sort and sign, and the empty text, array and table. -/
def isTrue : Value → Bool
  | .text value => !value.isEmpty
  | .integer value => value ≠ 0
  | .float value => !value.isZero
  | .boolean value => value
  | .date _ | .time _ | .dateTime _ _ _ => true
  | .array items => !items.isEmpty
  | .table entries => !entries.isEmpty

mutual

/-- A value as it is shown in messages. -/
def shown : Value → Text
  | .text value => value.quoted
  | .integer value => Text.ofInt value
  | .float value => value.text
  | .boolean value => Text.ofBool value
  | .date value => value.shown
  | .time value => value.shown
  | .dateTime day clock zone => shownDateTime day clock zone
  | .array items => '[' :: ", ".toList.intercalate (shownItems items) ++ [']']
  | .table entries => '\x7b' :: ", ".toList.intercalate (shownEntries entries) ++ ['\x7d']

/-- Values as they are shown, one by one. -/
def shownItems : List Value → List Text
  | [] => []
  | item :: items => item.shown :: shownItems items

/-- Keys with their values as they are shown, one by one. -/
def shownEntries : List (Text × Value) → List Text
  | [] => []
  | (key, value) :: entries => (key.quoted ++ ": ".toList ++ value.shown) :: shownEntries entries

end

/-- The greatest number of decimal digits that a whole number is read or shown
with. -/
def digitLimit : Nat := Text.numeralLimit

mutual

/-- Whether some whole number in a value has too many digits to be shown. -/
def hasLongInteger : Value → Bool
  | .integer value => digitLimit < (Text.ofNat value.natAbs).length
  | .array items => anyLongItem items
  | .table entries => anyLongEntry entries
  | .text _ | .float _ | .boolean _ | .date _ | .time _ | .dateTime _ _ _ => false

/-- Whether one of several values cannot be shown. -/
def anyLongItem : List Value → Bool
  | [] => false
  | item :: items => item.hasLongInteger || anyLongItem items

/-- Whether one of several keys has a value that cannot be shown. -/
def anyLongEntry : List (Text × Value) → Bool
  | [] => false
  | (_, value) :: entries => value.hasLongInteger || anyLongEntry entries

end

/-! ## Comparing values -/

mutual

/-- Whether two values are the same. -/
def same : Value → Value → Bool
  | .text one, .text other => one = other
  | .integer one, .integer other => one = other
  | .float one, .float other => one = other
  | .boolean one, .boolean other => one = other
  | .date one, .date other => one = other
  | .time one, .time other => one = other
  | .dateTime day clock zone, .dateTime day' clock' zone' =>
    day = day' && clock = clock' && zone = zone'
  | .array items, .array others => sameItems items others
  | .table entries, .table others => sameEntries entries others
  | _, _ => false

/-- Whether two lists hold the same values. -/
def sameItems : List Value → List Value → Bool
  | [], [] => true
  | item :: items, other :: others => item.same other && sameItems items others
  | _, _ => false

/-- Whether two lists hold the same keys with the same values. -/
def sameEntries : List (Text × Value) → List (Text × Value) → Bool
  | [], [] => true
  | (key, value) :: entries, (key', value') :: others =>
    key = key' && value.same value' && sameEntries entries others
  | _, _ => false

end

mutual

theorem same_iff : ∀ one other : Value, one.same other = true ↔ one = other
  | .text _, other => by cases other <;> simp [same]
  | .integer _, other => by cases other <;> simp [same]
  | .float _, other => by cases other <;> simp [same]
  | .boolean _, other => by cases other <;> simp [same]
  | .date _, other => by cases other <;> simp [same]
  | .time _, other => by cases other <;> simp [same]
  | .dateTime _ _ _, other => by cases other <;> simp [same, and_assoc]
  | .array items, other => by cases other <;> simp [same, sameItems_iff items]
  | .table entries, other => by cases other <;> simp [same, sameEntries_iff entries]

theorem sameItems_iff : ∀ items others : List Value, sameItems items others = true ↔ items = others
  | [], others => by cases others <;> simp [sameItems]
  | item :: items, others => by
      cases others <;> simp [sameItems, same_iff item, sameItems_iff items]

theorem sameEntries_iff : ∀ entries others : List (Text × Value),
    sameEntries entries others = true ↔ entries = others
  | [], others => by cases others <;> simp [sameEntries]
  | (key, value) :: entries, others => by
      cases others <;> simp [sameEntries, Prod.ext_iff, same_iff value, sameEntries_iff entries]

end

instance : DecidableEq Value := fun one other => decidable_of_iff _ (same_iff one other)

end Value

end SourceDiagnostics.Toml
