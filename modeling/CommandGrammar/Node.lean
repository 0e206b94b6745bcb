import CommandGrammar.Store
import Std.Data.ExtTreeMap

/-! # Nodes

A node is one position of a grammar: the word it is matched by, the positions that can follow
it, the store that it captures into and the action that runs when a command ends on it. What
kind of node it is follows from what it carries.
-/

namespace CommandGrammar

/-- The reserved key of the child that takes every token without a child of its own. -/
def wildcard : String := "^_^"

/-- What runs when dispatch stops on a node: a value computed from the captured tokens. -/
abbrev Action (R : Type) := Captures → R

/-- The kind of a node. -/
inductive NodeKind where
  /-- Carries neither an action nor a store. -/
  | branch
  /-- Carries an action, and perhaps a store. -/
  | executable
  /-- Carries a store but no action. -/
  | capturing
deriving DecidableEq, Repr

namespace NodeKind

/-- The name of a kind. -/
def display : NodeKind → String
  | .branch => "Branch"
  | .executable => "Executable"
  | .capturing => "Capturing"

end NodeKind

/-- One position of a grammar. Children are places in the table of nodes, ordered by the key
they are registered under. -/
structure Node (R : Type) where
  name : String
  help : Option String := none
  aliasName : Option String := none
  children : Std.ExtTreeMap String Nat := ∅
  wildcardChild : Option Nat := none
  store : Option StoreRef := none
  action : Option (Action R) := none

namespace Node

variable {R : Type}

/-- The alias if there is one, else the name. -/
def displayName (node : Node R) : String := node.aliasName.getD node.name

/-- Whether the node carries an action. -/
def isExecutable (node : Node R) : Bool := node.action.isSome

/-- Whether the node carries a store. -/
def isCapturing (node : Node R) : Bool := node.store.isSome

/-- The kind that follows from what the node carries. -/
def kind (node : Node R) : NodeKind :=
  if node.isExecutable then .executable
  else if node.isCapturing then .capturing
  else .branch

/-- The child registered under exactly this key. -/
def child? (node : Node R) (key : String) : Option Nat := node.children[key]?

/-- The children with their keys, by the order of code points of the keys. -/
def childEntries (node : Node R) : List (String × Nat) := node.children.toList

/-- The children in the order of their keys; a child under two keys occurs twice. -/
def childIndices (node : Node R) : List Nat := node.childEntries.map (·.2)

/-- The child that a token leads to, and whether the token fell to the wildcard. A token spelled
like the wildcard counts as fallen. -/
def step? (node : Node R) (token : String) : Option (Nat × Bool) :=
  match node.child? token with
  | some index => some (index, token == wildcard)
  | none => node.wildcardChild.map fun index => (index, true)

/-- Registers a child. Under the wildcard key it also becomes the wildcard child. -/
def insertChild (node : Node R) (key : String) (index : Nat) : Node R :=
  { node with
    children := node.children.insert key index
    wildcardChild := if key = wildcard then some index else node.wildcardChild }

end Node

end CommandGrammar
