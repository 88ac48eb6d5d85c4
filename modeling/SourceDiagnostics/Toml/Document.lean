/-
# Reading documents

A document is a sequence of lines. A line holds a key with its value, a header
that says to which table the following keys belong, or nothing, and perhaps a
comment behind it. A header in doubled brackets adds a table to an array.

Values can hold values: arrays may stretch over several lines with comments
between their elements, whereas a table written as a value stays on one line.

Reading is bounded by the length of the text: every element, entry and line
takes at least one character.
-/

import SourceDiagnostics.Toml.Key
import SourceDiagnostics.Toml.Moment
import SourceDiagnostics.Toml.Number
import SourceDiagnostics.Toml.Table

namespace SourceDiagnostics.Toml

/-- An answer that may be missing, where a missing one breaks a rule. -/
def orMalformed {α : Type} : Option α → Except Fault α
  | some answer => .ok answer
  | none => .error .malformed

/-- Whether a value is finished with its last bracket or brace. -/
def Value.isContainer : Value → Bool
  | .array _ | .table _ => true
  | _ => false

/-- A date, a time or a number. Dates and times come first, because they begin
like numbers. -/
def momentOrNumber (text : Text) : Except Fault (Value × Text) :=
  match moment? text with
  | some reading => reading
  | none =>
    match based? text with
    | some reading => .ok reading
    | none =>
      match plainNumber? text with
      | some reading => reading
      | none =>
        match specialNumber? text with
        | some reading => .ok reading
        | none => .error .malformed

mutual

/-- A value, to which at most `fuel` readings of values, elements and entries
belong. -/
def valueWithin : Nat → Text → Except Fault (Value × Text)
  | 0, _ => .error .malformed
  | fuel + 1, text =>
    match text with
    | '[' :: rest => do
      let (items, rest) ← itemsWithin fuel (← skipGaps rest)
      return (.array items, rest)
    | '\x7b' :: rest =>
      match skipBlanks rest with
      | '\x7d' :: rest => .ok (.table [], rest)
      | rest => do
        let (table, rest) ← entriesWithin fuel [] {} rest
        return (.table table, rest)
    | '"' :: _ => (quotedText '"' text).map fun (value, rest) => (.text value, rest)
    | '\'' :: _ => (quotedText '\'' text).map fun (value, rest) => (.text value, rest)
    | _ =>
      if Text.startsWith text "true".toList then .ok (.boolean true, text.drop 4)
      else if Text.startsWith text "false".toList then .ok (.boolean false, text.drop 5)
      else momentOrNumber text

/-- The elements of an array up to its closing bracket, where a comma may follow
the last one. -/
def itemsWithin : Nat → Text → Except Fault (List Value × Text)
  | 0, _ => .error .malformed
  | _ + 1, ']' :: rest => .ok ([], rest)
  | fuel + 1, text => do
    let (item, rest) ← valueWithin fuel text
    match ← skipGaps rest with
    | ']' :: rest => return ([item], rest)
    | ',' :: rest => do
      let (items, rest) ← itemsWithin fuel (← skipGaps rest)
      return (item :: items, rest)
    | _ => .error .malformed

/-- The entries of a table written as a value, up to its closing brace, added to
those read before. No comma may follow the last one. -/
def entriesWithin : Nat → Table → Closed → Text → Except Fault (Table × Text)
  | 0, _, _, _ => .error .malformed
  | fuel + 1, table, closed, text => do
    let (path, value, rest) ← entryWithin fuel text
    if closed.isFinished path then .error .malformed
    let table ← orMalformed
      (table.change? false (Table.insertNew? (path.getLastD []) value) path.dropLast)
    match skipBlanks rest with
    | '\x7d' :: rest => return (table, rest)
    | ',' :: rest =>
      entriesWithin fuel table (if value.isContainer then closed.finish path else closed)
        (skipBlanks rest)
    | _ => .error .malformed

/-- A key with its value. -/
def entryWithin : Nat → Text → Except Fault (KeyPath × Value × Text)
  | 0, _ => .error .malformed
  | fuel + 1, text => do
    let (path, rest) ← key text
    match rest with
    | '=' :: rest => do
      let (value, rest) ← valueWithin fuel (skipBlanks rest)
      return (path, value, rest)
    | _ => .error .malformed

end

/-- A document that has been read up to some line. -/
structure Draft where
  table : Table := []
  closed : Closed := {}
  /-- The table to which the following keys belong. -/
  header : KeyPath := []

namespace Draft

/-- The tables between the current one and the value of a key with points. -/
def between (header path : KeyPath) : List KeyPath :=
  (List.range (path.length - 1)).map fun count => header ++ path.take (count + 1)

/-- Writes a value under a key of the current table. -/
def write? (draft : Draft) (path : KeyPath) (value : Value) : Option Draft :=
  let whole := draft.header ++ path
  let led := between draft.header path
  if led.any draft.closed.isHeaded || draft.closed.isFinished whole.dropLast then none
  else do
    let table ← draft.table.change? true (Table.insertNew? (path.getLastD []) value) whole.dropLast
    let closed := draft.closed.postpone led
    return { draft with
      table := table
      closed := if value.isContainer then closed.finish whole else closed }

/-- Begins the section of a table. -/
def openTable? (draft : Draft) (path : KeyPath) : Option Draft :=
  let closed := draft.closed.settle
  if closed.isHeaded path || closed.isFinished path then none
  else do
    return ⟨← draft.table.change? true some path, closed.head path, path⟩

/-- Begins the section of a further table of an array. What was said about the
previous one does not hold for it. -/
def openArray? (draft : Draft) (path : KeyPath) : Option Draft :=
  let closed := draft.closed.settle
  if closed.isFinished path then none
  else do
    let table ← draft.table.change? true (Table.appendTable? (path.getLastD [])) path.dropLast
    return ⟨table, (closed.release path).head path, path⟩

end Draft

/-- The text behind the end of a line and a comment before it. -/
def endLine (text : Text) : Except Fault Text := do
  match ← skipComment (skipBlanks text) with
  | [] => return []
  | '\n' :: rest => return rest
  | _ => .error .malformed

/-- A line of a document from its first character on that is no blank, read onto
a draft; at most `fuel` values belong to it. -/
def line (fuel : Nat) (draft : Draft) (text : Text) : Except Fault (Draft × Text) :=
  match text with
  | '[' :: '[' :: rest => do
    let (path, rest) ← key (skipBlanks rest)
    let draft ← orMalformed (draft.openArray? path)
    match rest with
    | ']' :: ']' :: rest => return (draft, ← endLine rest)
    | _ => .error .malformed
  | '[' :: rest => do
    let (path, rest) ← key (skipBlanks rest)
    let draft ← orMalformed (draft.openTable? path)
    match rest with
    | ']' :: rest => return (draft, ← endLine rest)
    | _ => .error .malformed
  | c :: _ =>
    if isKeyStart c then do
      let (path, value, rest) ← entryWithin fuel text
      let draft ← orMalformed (draft.write? path value)
      return (draft, ← endLine rest)
    else do return (draft, ← endLine text)
  | [] => .ok (draft, [])

/-- At most `fuel` lines, read onto a draft. -/
def linesWithin : Nat → Draft → Text → Except Fault Draft
  | 0, draft, _ => .ok draft
  | fuel + 1, draft, text =>
    match skipBlanks text with
    | [] => .ok draft
    | text => do
      let (draft, rest) ← line (fuel + 1) draft text
      linesWithin fuel draft rest

/-- Reads a document. Carriage returns before newlines do not count. -/
def document (text : Text) : Except Fault Table := do
  let text := text.foldLineEnds
  return (← linesWithin (text.length + 1) {} text).table

end SourceDiagnostics.Toml
