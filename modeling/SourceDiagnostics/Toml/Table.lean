/-
# Tables and what may be added to them

Keys of a document are paths into nested tables. Writing to a path makes the
tables on the way that are not there yet; a table that is the last element of an
array can be gone through as well, but no other value can.

The format forbids more than writing a key twice. A table that has a header of
its own, or that was made by a key with points in another section, cannot get a
second header; and an array or table that was written out as a value is finished
for good, with everything inside it. Those rules are about paths and not about
values, so they are kept as two lists of paths beside the table.
-/

import SourceDiagnostics.Toml.Value

namespace SourceDiagnostics.Toml

/-- The keys that lead from the document to a value. -/
abbrev KeyPath := List Text

namespace Table

/-- The table with another value under a key that it has. -/
def replace (table : Table) (key : Text) (value : Value) : Table :=
  table.map fun entry => if entry.1 = key then (key, value) else entry

/-- The table with a new value under a key; `none` if it has the key. -/
def insertNew? (key : Text) (value : Value) (table : Table) : Option Table :=
  if (table.lookup key).isSome then none else some (table ++ [(key, value)])

/-- The table with a table of its own under the path changed. Tables on the way
are made where there is nothing. With `throughArrays`, an array on the way stands
for its last element. -/
def change? (throughArrays : Bool) (f : Table → Option Table) : KeyPath → Table → Option Table
  | [], table => f table
  | key :: path, table =>
    match table.lookup key with
    | none => do return table ++ [(key, .table (← change? throughArrays f path []))]
    | some (.table inner) => do
      return table.replace key (.table (← change? throughArrays f path inner))
    | some (.array items) =>
      match items.getLast? with
      | some (.table inner) =>
        if throughArrays then do
          let inner ← change? throughArrays f path inner
          return table.replace key (.array (items.dropLast ++ [.table inner]))
        else none
      | _ => none
    | some _ => none

/-- The table with one more empty table in the array under a key. The array is
made where there is nothing. -/
def appendTable? (key : Text) (table : Table) : Option Table :=
  match table.lookup key with
  | none => some (table ++ [(key, .array [.table []])])
  | some (.array items) => some (table.replace key (.array (items ++ [.table []])))
  | some _ => none

end Table

/-- The paths that are closed to some way of writing. -/
structure Closed where
  /-- Tables that cannot get a header. -/
  headed : List KeyPath := []
  /-- Arrays and tables that are finished, with everything inside. -/
  finished : List KeyPath := []
  /-- Tables that will count as headed from the next header on. -/
  pending : List KeyPath := []

namespace Closed

/-- Whether a table cannot get a header because it has one. -/
def isHeaded (closed : Closed) (path : KeyPath) : Bool := closed.headed.contains path

/-- Whether a path lies inside something that is finished. -/
def isFinished (closed : Closed) (path : KeyPath) : Bool :=
  closed.finished.any (·.isPrefixOf path)

/-- Marks a table as headed. -/
def head (closed : Closed) (path : KeyPath) : Closed :=
  { closed with headed := path :: closed.headed }

/-- Marks an array or table as finished. -/
def finish (closed : Closed) (path : KeyPath) : Closed :=
  { closed with finished := path :: closed.finished }

/-- Notes tables that keys with points have led through. -/
def postpone (closed : Closed) (paths : List KeyPath) : Closed :=
  { closed with pending := paths ++ closed.pending }

/-- The beginning of a section: what was noted counts from now on. -/
def settle (closed : Closed) : Closed :=
  { closed with headed := closed.pending ++ closed.headed, pending := [] }

/-- Forgets everything about a path and what lies inside it. -/
def release (closed : Closed) (path : KeyPath) : Closed :=
  { closed with
    headed := closed.headed.filter (!path.isPrefixOf ·)
    finished := closed.finished.filter (!path.isPrefixOf ·) }

end Closed

end SourceDiagnostics.Toml
