import CommandGrammar.Decimal.Binary64

/-! # Values of a settings text

The values that the TOML notation describes. Tables keep their entries in the order in which they
were written, and remember how they came about, since that decides what may be added to them.
-/

namespace CommandGrammar.Toml

/-- How a table came about. -/
inductive Origin where
  /-- By a header of its own; the table of the whole text counts as one of these. -/
  | header
  /-- On the way to a table that a header names. -/
  | path
  /-- On the way to a value that a dotted key names. -/
  | dotted
  /-- In braces, which closes it. -/
  | inline
  /-- On the way to a value that a dotted key names in braces. -/
  | inlineDotted
deriving DecidableEq, Repr

/-- A value. -/
inductive Value where
  | text (value : String)
  | integer (value : Int)
  | floating (value : Decimal.Binary64)
  | boolean (value : Bool)
  /-- A date, a time, or both. -/
  | moment
  | array (items : List Value)
  /-- The tables that headers in double brackets append to one array. -/
  | tables (items : List Value)
  | table (origin : Origin) (entries : List (String × Value))
deriving Repr

/-- The entries of a table, in the order in which they were written. -/
abbrev Entries := List (String × Value)

namespace Entries

/-- The value of a key. -/
def find? (entries : Entries) (key : String) : Option Value :=
  entries.lookup key

/-- Gives a key that is present another value and leaves it at its place. -/
def replace (entries : Entries) (key : String) (value : Value) : Entries :=
  entries.map fun entry => if entry.1 == key then (key, value) else entry

/-- Adds a key behind the others. -/
def add (entries : Entries) (key : String) (value : Value) : Entries := entries ++ [(key, value)]

/-- Leaves out a key. -/
def remove (entries : Entries) (key : String) : Entries :=
  entries.filter fun entry => entry.1 != key

/-- Whether a path that creates tables of one origin may lead through a table of another. Dotted
keys do not enter tables that have a header of their own, and nothing enters a closed table. -/
def enters (creating : Origin) : Origin → Bool
  | .header => creating == .path
  | .path | .dotted => true
  | .inline => false
  | .inlineDotted => creating == .inlineDotted

/-- Changes the table at the end of a path, which is given with its origin. Missing tables are
created on the way, and an array of tables is entered at its last table. There is no result when
something else is in the way or the change fails. -/
def change (creating : Origin) (make : Origin → Entries → Option Entries) :
    List String → Origin → Entries → Option Entries
  | [], origin, entries => make origin entries
  | key :: rest, _, entries =>
    match entries.find? key with
    | none => do
      entries.add key (.table creating (← change creating make rest creating []))
    | some (.table origin inner) =>
      if enters creating origin then do
        entries.replace key (.table origin (← change creating make rest origin inner))
      else none
    | some (.tables items) =>
      match items.getLast? with
      | some (.table origin inner) => do
        let last := Value.table origin (← change creating make rest origin inner)
        entries.replace key (.tables (items.dropLast ++ [last]))
      | _ => none
    | some _ => none

/-- Adds the value of a dotted key to a table, which is the open table of a text or one in
braces. A key is given a value once, and a dotted key does not extend a table that came about in
another way. -/
def assign (origin : Origin) (entries : Entries) (path : List String) (key : String)
    (value : Value) : Option Entries :=
  let creating := if origin = .inline then .inlineDotted else .dotted
  change creating (fun reached inner =>
    if (reached == creating) == path.isEmpty then none
    else if (inner.find? key).isSome then none
    else some (inner.add key value)) path origin entries

end Entries

end CommandGrammar.Toml
