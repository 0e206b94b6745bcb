import CommandGrammar.Grammar.Build
import CommandGrammar.Tokenizer

/-! # The SELECT template

A ready grammar for statements of the form

`select <fields> from <table> [where <condition>] [group by <key>] [order by <field>]
[limit <range>]`

Clauses are optional but keep this order. What stands in a slot is captured into one store, and
every slot but the first is executable: a statement runs the callback of its last slot on the
captured values in the order of the statement.
-/

namespace CommandGrammar.Select

variable {R : Type}

/-- The pattern that lexes statements: a field behind `distinct`, a word with `by`, a run of
numbers, or else everything up to white space or a semicolon. -/
def lexicalPattern : String :=
  "((?:distinct|DISTINCT)\\s+?\\S+|\\w+\\s+by|\\d+\\s*?\\d+\\s*?\\d+|[^\\s;]+);*"

/-- The group of the pattern that holds the token. -/
def lexicalGroup : Nat := 1

/-- Makes the tokenizer of statements, by a given way to compile patterns. -/
def tokenizerWith (compiler : Pattern.Compiler) (cache : PatternCache) :
    Except PatternFault Tokenizer × PatternCache :=
  Tokenizer.makeWith compiler cache (.regexGroup lexicalGroup) lexicalPattern

/-- Makes the tokenizer of statements. -/
def tokenizer (cache : PatternCache) : Except PatternFault Tokenizer × PatternCache :=
  tokenizerWith Pattern.read? cache

/-- A callback on the captured values. -/
abbrev Callback (R : Type) := List String → R

/-- One callback for each executable slot. -/
structure Callbacks (R : Type) where
  table : Callback R
  condition : Callback R
  key : Callback R
  field : Callback R
  range : Callback R

/-- How many callbacks the template needs. -/
def callbackCount : Nat := 5

/-- The first five callbacks of a list, in the order of the slots. -/
def Callbacks.ofList? : List (Callback R) → Option (Callbacks R)
  | table :: condition :: key :: field :: range :: _ => some ⟨table, condition, key, field, range⟩
  | _ => none

/-- An executable slot. -/
def slot (store : StoreRef) (callback : Callback R) (aliasName help : String)
    (children : List NodeRef) : NodeSpec R :=
  { name := wildcard, aliasName := some aliasName, help := some help, children
    action := some fun captures => callback (captures.values store) }

/-- A keyword whose slot is captured into the store. -/
def keyword (store : StoreRef) (name : String) (children : List NodeRef)
    (help : Option String) : NodeSpec R :=
  { name, help, target := .into store, children }

/-- The nodes of the template, leaves first, for a grammar whose next place is `base`. -/
def specs (store : StoreRef) (callbacks : Callbacks R) (base : Nat) : List (NodeSpec R) :=
  let place (offset : Nat) : NodeRef := .stored (base + offset)
  [slot store callbacks.range "offset count"
      "One or two numbers selecting the range of rows to return." [],
   keyword store "limit" [place 0] none,
   slot store callbacks.field "order by field" "Name of the field to sort by." [place 1],
   keyword store "order by" [place 2] none,
   slot store callbacks.key "group by field" "Name of the field to group by."
      [place 3, place 1],
   keyword store "group by" [place 4] none,
   slot store callbacks.condition "where condition"
      "An equation or inequality rows must satisfy." [place 5, place 3, place 1],
   keyword store "where" [place 6] none,
   slot store callbacks.table "table name" "Name of the table to query."
      [place 7, place 5, place 3, place 1],
   keyword store "from" [place 8] (some "Names the table being queried."),
   { name := wildcard, aliasName := some "fields", help := some "The fields being selected.",
     target := .into store, children := [place 9] },
   keyword store "select" [place 10] (some "Reads rows from a table.")]

/-- The offset of the node that statements begin with. -/
def rootOffset : Nat := 11

/-- Adds nodes one after the other. A node that cannot be built stops the work and leaves the
nodes before it in the grammar. -/
def buildAll (grammar : Grammar R) : List (NodeSpec R) → Change R (Except Error Unit)
  | [] => ⟨.ok (), grammar, []⟩
  | spec :: rest =>
    match grammar.build spec with
    | .error fault => ⟨.error fault, grammar, []⟩
    | .ok built =>
      let final := buildAll built.grammar rest
      ⟨final.value, final.grammar, built.trace ++ final.trace⟩

/-- Adds the template to a grammar, capturing into an existing store, and returns the node that
statements begin with. Callbacks past the fifth are ignored. -/
def install (grammar : Grammar R) (store : StoreRef) (callbacks : List (Callback R)) :
    Change R (Except Error NodeRef) :=
  let ignored :=
    if callbackCount < callbacks.length then [Event.ignoredCallbacks callbacks.length] else []
  match Callbacks.ofList? callbacks with
  | none =>
    ⟨.error (.missingCallback callbackCount callbacks.length), grammar, ignored⟩
  | some callbacks =>
    let base := grammar.size
    let built := buildAll grammar (specs store callbacks base)
    ⟨built.value.map fun _ => .stored (base + rootOffset), built.grammar, ignored ++ built.trace⟩

end CommandGrammar.Select
