import CommandGrammar.Toml.Reader

/-! # Settings texts

A text is a list of statements, one a line: a key is given a value, or a header opens a table or
appends one to an array. Statements build the table of the text in order. A table has one header
at most, no key is given a value twice, and what was named on the way to another table may get
its header later.
-/

namespace CommandGrammar.Toml

/-- A line that says something. -/
inductive Statement where
  | assign (path : List String) (key : String) (value : Value)
  /-- The header of a table. -/
  | table (path : List String) (key : String)
  /-- The header of a table at the end of an array. -/
  | element (path : List String) (key : String)
deriving Repr

namespace Statement

/-- Leaves blanks, a comment and the line end behind a statement; the text may end too. -/
def finish? (rest : List Char) : Option (List Char) :=
  match Value.skipComment (skipBlanks rest) with
  | [] => some []
  | rest => skipLineEnd? rest

/-- Reads a statement at the start of a line. -/
def read? : List Char → Option (Statement × List Char)
  | '[' :: '[' :: rest => do
    let (path, key, rest) ← Key.read? rest
    match rest with
    | ']' :: ']' :: rest => some (.element path key, ← finish? rest)
    | _ => none
  | '[' :: rest => do
    let (path, key, rest) ← Key.read? rest
    match rest with
    | ']' :: rest => some (.table path key, ← finish? rest)
    | _ => none
  | rest => do
    let (path, key, rest) ← Key.read? rest
    match rest with
    | '=' :: rest =>
      let (value, rest) ← Value.read? Value.depthLimit (skipBlanks rest)
      some (.assign path key value, ← finish? rest)
    | _ => none

/-- Reads the statements of a text. The fuel bounds the number of lines. -/
def readAll? : Nat → List Char → Option (List Statement)
  | 0, _ => none
  | fuel + 1, rest =>
    match Value.skipComment (skipBlanks rest) with
    | [] => some []
    | '\n' :: rest | '\r' :: '\n' :: rest => readAll? fuel rest
    | rest => do
      let (statement, rest) ← read? rest
      some (statement :: (← readAll? fuel rest))

end Statement

/-- Where the table of the last header goes once it is complete. -/
inductive Destination where
  /-- It is the table of the whole text. -/
  | whole
  | table (path : List String) (key : String)
  | element (path : List String) (key : String)
deriving DecidableEq, Repr

/-- A text whose first statements have been taken in: what is complete, and the table that the
last header opened. -/
structure Draft where
  complete : Entries := []
  destination : Destination := .whole
  entries : Entries := []
deriving Repr

namespace Draft

/-- Appends a table to the array of a key. -/
def append? (table : Value) (key : String) (inner : Entries) : Option Entries :=
  match inner.find? key with
  | none => some (inner.add key (.tables [table]))
  | some (.tables items) => some (inner.replace key (.tables (items ++ [table])))
  | some _ => none

/-- The table of the whole text once the open table is put at its place. -/
def close? (draft : Draft) : Option Entries :=
  let table := Value.table .header draft.entries
  match draft.destination with
  | .whole => some draft.entries
  | .table path key =>
    draft.complete.change .path (fun _ inner => some (inner.add key table)) path .header
  | .element path key =>
    draft.complete.change .path (fun _ inner => append? table key inner) path .header

/-- What a table that was named on the way to others holds already, or nothing if the key is
new. A table that came about in another way does not get a header. -/
def carried? (inner : Entries) (key : String) : Option Entries :=
  match inner.find? key with
  | none => some []
  | some (.table .path entries) => some entries
  | some _ => none

/-- Follows a path through the tables of a text. -/
def follow? : List String → Entries → Option Entries
  | [], entries => some entries
  | key :: rest, entries =>
    match entries.find? key with
    | none => some []
    | some (.table origin inner) =>
      if Entries.enters .path origin then follow? rest inner else none
    | some (.tables items) =>
      match items.getLast? with
      | some (.table origin inner) =>
      if Entries.enters .path origin then follow? rest inner else none
      | _ => none
    | some _ => none

/-- Opens the table of a header. What it holds already is taken out of the complete part. -/
def openTable? (complete : Entries) (path : List String) (key : String) : Option Draft := do
  let entries ← carried? (← follow? path complete) key
  let complete ← complete.change .path (fun _ inner => some (inner.remove key)) path .header
  some { complete, destination := .table path key, entries }

/-- Takes in one statement. -/
def take? (draft : Draft) : Statement → Option Draft
  | .assign path key value => do
    some { draft with entries := ← draft.entries.assign .header path key value }
  | .table path key => do openTable? (← draft.close?) path key
  | .element path key => do
    some { complete := ← draft.close?, destination := .element path key }

end Draft

/-- The table of a text; none if the text is malformed. A byte order mark at the start is left
out. -/
def read? (text : String) : Option Entries := do
  let chars :=
    match text.toList with
    | '\ufeff' :: rest => rest
    | rest => rest
  let statements ← Statement.readAll? (chars.length + 1) chars
  (← statements.foldlM Draft.take? {}).close?

end CommandGrammar.Toml
