import CommandGrammar.Error
import CommandGrammar.Node

/-! # Grammars

A grammar is a table of nodes together with the capture stores that they share. Nodes refer to
each other by their place in the table, so several nodes can share a child and a child can lead
back to an ancestor. Looking a token up changes nothing; stepping with a token records what falls
to the wildcard child of a capturing node.
-/

namespace CommandGrammar

/-- The nodes and capture stores of a command language. -/
structure Grammar (R : Type) where
  nodes : Array (Node R) := #[]
  stores : StoreTable := {}

/-- What an operation on a grammar returns: a value, the grammar afterwards and the trace. -/
structure Change (R α : Type) where
  value : α
  grammar : Grammar R
  trace : Trace

namespace Grammar

variable {R : Type}

/-- The grammar without nodes. -/
def empty : Grammar R := {}

/-- The number of nodes. -/
def size (grammar : Grammar R) : Nat := grammar.nodes.size

/-- The node of a handle; the position reached when nothing matches has none. -/
def node? (grammar : Grammar R) : NodeRef → Option (Node R)
  | .notFound => none
  | .stored index => grammar.nodes[index]?

/-- The name of a handle. The position reached when nothing matches has a name of its own. -/
def name? (grammar : Grammar R) : NodeRef → Option String
  | .notFound => some NodeRef.notFoundName
  | node@(.stored _) => (grammar.node? node).map (·.name)

/-- The help text of a handle. -/
def help? (grammar : Grammar R) (node : NodeRef) : Option String :=
  (grammar.node? node).bind (·.help)

/-- The kind of the node of a handle. -/
def kind? (grammar : Grammar R) (node : NodeRef) : Option NodeKind :=
  (grammar.node? node).map (·.kind)

/-- Whether the handle has a node that carries an action. -/
def isExecutable (grammar : Grammar R) (node : NodeRef) : Bool :=
  match grammar.node? node with
  | some found => found.isExecutable
  | none => false

/-- Adds an empty capture store. -/
def newStore (grammar : Grammar R) : StoreRef × Grammar R :=
  let (store, stores) := grammar.stores.create
  (store, { grammar with stores })

/-- Whether two store handles read the same captures. -/
def sameStore (grammar : Grammar R) (a b : StoreRef) : Bool := grammar.stores.isUnified a b

/-- The tokens captured into a store. -/
def captured (grammar : Grammar R) (store : StoreRef) : List String := grammar.stores.values store

/-- The reading view of all capture stores. -/
def captures (grammar : Grammar R) : Captures := grammar.stores.view

/-- The position that a token leads to, recording nothing. -/
def lookup (grammar : Grammar R) (node : NodeRef) (token : String) : NodeRef :=
  match (grammar.node? node).bind (·.step? token) with
  | some (index, _) => .stored index
  | none => .notFound

/-- The position that a token leads to. If the node captures and the token falls to its wildcard
child, the token is recorded in the node's store. -/
def advance (grammar : Grammar R) (node : NodeRef) (token : String) : Change R NodeRef :=
  match grammar.node? node with
  | none => ⟨.notFound, grammar, []⟩
  | some found =>
    match found.step? token with
    | none => ⟨.notFound, grammar, []⟩
    | some (index, fell) =>
      match found.store, fell with
      | some store, true =>
        let (stores, trace) := grammar.stores.push store token
        ⟨.stored index, { grammar with stores }, .capturedToken found.name token :: trace⟩
      | _, _ => ⟨.stored index, grammar, []⟩

/-- The value of a node's action on the current captures, if it has one. -/
def execute (grammar : Grammar R) (node : NodeRef) : Option R :=
  (grammar.node? node).bind fun found => found.action.map fun action => action grammar.captures

end Grammar

end CommandGrammar
