import CommandGrammar.Toml.Moment
import CommandGrammar.Toml.Number

/-! # Reading values

A value is a text, a number, a moment, a truth value, an array or a table in braces. Arrays may
go over several lines and hold comments; tables in braces stay on one line. How deep the two may
nest is bounded, and reading recurses on what is left of that bound.
-/

namespace CommandGrammar.Toml.Value

/-- How deep arrays and tables in braces may nest. -/
def depthLimit : Nat := 79

/-- The text behind a comment, or all of it. -/
def skipComment : List Char → List Char
  | '#' :: rest => rest.dropWhile isPlain
  | rest => rest

/-- The text behind blanks, line ends and comments. The fuel bounds their number. -/
def skipLines : Nat → List Char → List Char
  | 0, rest => rest
  | fuel + 1, rest =>
    match skipComment (skipBlanks rest) with
    | '\n' :: rest | '\r' :: '\n' :: rest => skipLines fuel rest
    | rest => rest

/-- The text behind everything between two items of an array. -/
def skipSpace (rest : List Char) : List Char := skipLines (rest.length + 1) rest

/-- Reads the items of an array up to its closing bracket. A comma may stand behind the last
item. The fuel bounds the number of items. -/
def readItems? (readItem? : List Char → Option (Value × List Char)) :
    Nat → List Char → Option (List Value × List Char)
  | 0, _ => none
  | fuel + 1, rest =>
    match skipSpace rest with
    | ']' :: rest => some ([], rest)
    | rest => do
      let (item, rest) ← readItem? rest
      match skipSpace rest with
      | ',' :: rest => do
        let (items, rest) ← readItems? readItem? fuel rest
        some (item :: items, rest)
      | ']' :: rest => some ([item], rest)
      | _ => none

/-- Reads the entries of a table in braces up to the closing one, onto the entries read before.
The fuel bounds the number of entries. -/
def readEntries? (readItem? : List Char → Option (Value × List Char)) :
    Nat → Entries → List Char → Option (Entries × List Char)
  | 0, _, _ => none
  | fuel + 1, entries, rest => do
    let (path, key, rest) ← Key.read? rest
    match rest with
    | '=' :: rest => do
      let (item, rest) ← readItem? (skipBlanks rest)
      let entries ← entries.assign .inline path key item
      match skipBlanks rest with
      | ',' :: rest => readEntries? readItem? fuel entries rest
      | '\x7d' :: rest => some (entries, rest)
      | _ => none
    | _ => none

/-- Reads a table behind its opening brace. -/
def readInline? (readItem? : List Char → Option (Value × List Char)) (rest : List Char) :
    Option (Entries × List Char) :=
  match skipBlanks rest with
  | '\x7d' :: rest => some ([], rest)
  | rest => readEntries? readItem? rest.length [] rest

/-- Reads a moment or a number. -/
def readNumeric? (rest : List Char) : Option (Value × List Char) :=
  match Moment.skip? rest with
  | some rest => some (.moment, rest)
  | none => Number.read? rest

/-- Reads a value that holds no others. -/
def readScalar? (rest : List Char) : Option (Value × List Char) :=
  match rest with
  | '"' :: _ | '\'' :: _ => (Text.read? rest).map fun (content, rest) => (.text content, rest)
  | 't' :: 'r' :: 'u' :: 'e' :: rest => some (.boolean true, rest)
  | 'f' :: 'a' :: 'l' :: 's' :: 'e' :: rest => some (.boolean false, rest)
  | rest => readNumeric? rest

/-- Reads a value in which others nest at most so deep. -/
def read? : Nat → List Char → Option (Value × List Char)
  | 0, '[' :: _ | 0, '\x7b' :: _ => none
  | depth + 1, '[' :: rest => do
    let (items, rest) ← readItems? (read? depth) rest.length rest
    some (.array items, rest)
  | depth + 1, '\x7b' :: rest => do
    let (entries, rest) ← readInline? (read? depth) rest
    some (.table .inline entries, rest)
  | _, rest => readScalar? rest

end CommandGrammar.Toml.Value
