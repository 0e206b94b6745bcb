import CommandGrammar.Trace

/-! # Capture stores

A store is a list of captured tokens. Two stores can be unified: the entries of the second are
appended to the first, and from then on both handles read and write the same list. Unification
redirects the second store to the first and never shortens a chain of redirections, so reading a
handle follows the chain to the store that still owns its list.
-/

namespace CommandGrammar

/-- A place of the table: a list of its own, or a redirection to another store. -/
inductive StoreSlot where
  | owned (values : List String)
  | merged (into : StoreRef)
deriving DecidableEq, Repr

/-- All capture stores of a grammar, in the order of their creation. -/
structure StoreTable where
  slots : Array StoreSlot := #[]
deriving DecidableEq, Repr

/-- The reading view of the stores that an action is given: the captured tokens of every handle,
none for a handle without a store. -/
structure Captures where
  values : StoreRef → List String

namespace Captures

/-- The token captured at a place of a store, if there is one. -/
def nth (captures : Captures) (store : StoreRef) (index : Nat) : Option String :=
  (captures.values store)[index]?

/-- Whether a store reads empty. -/
def isEmpty (captures : Captures) (store : StoreRef) : Bool :=
  (captures.values store).isEmpty

end Captures

namespace StoreTable

/-- The table without stores. -/
def empty : StoreTable := {}

/-- Adds an empty store and returns its handle. -/
def create (table : StoreTable) : StoreRef × StoreTable :=
  (⟨table.slots.size⟩, ⟨table.slots.push (.owned [])⟩)

/-- Whether the handle belongs to a store of the table. -/
def contains (table : StoreTable) (store : StoreRef) : Bool :=
  decide (store.index < table.slots.size)

/-- Follows at most `fuel` places along the redirections. -/
def follow (table : StoreTable) : Nat → StoreRef → Option StoreRef
  | 0, _ => none
  | fuel + 1, store =>
    match table.slots[store.index]? with
    | none => none
    | some (.owned _) => some store
    | some (.merged next) => table.follow fuel next

/-- The store that owns the list of a handle. A chain of redirections visits no place twice, so
the number of places bounds it. -/
def resolve (table : StoreTable) (store : StoreRef) : Option StoreRef :=
  table.follow table.slots.size store

/-- Whether both handles read the same list. -/
def isUnified (table : StoreTable) (a b : StoreRef) : Bool :=
  match table.resolve a, table.resolve b with
  | some rootA, some rootB => rootA == rootB
  | _, _ => false

/-- Changes the list at a place that owns one. -/
def modifyOwned (table : StoreTable) (root : StoreRef) (change : List String → List String) :
    StoreTable :=
  ⟨table.slots.modify root.index fun
    | .owned values => .owned (change values)
    | .merged next => .merged next⟩

/-- The captured tokens, oldest first; none for an unknown handle. -/
def values (table : StoreTable) (store : StoreRef) : List String :=
  match table.resolve store with
  | none => []
  | some root =>
    match table.slots[root.index]? with
    | some (.owned values) => values
    | _ => []

/-- Records a token. A token for an unknown handle is dropped, which the trace reports. -/
def push (table : StoreTable) (store : StoreRef) (token : String) : StoreTable × Trace :=
  match table.resolve store with
  | none => (table, [.droppedCapture store])
  | some root => (table.modifyOwned root (· ++ [token]), [])

/-- Empties a store and so every store unified with it. -/
def clear (table : StoreTable) (store : StoreRef) : StoreTable :=
  match table.resolve store with
  | none => table
  | some root => table.modifyOwned root fun _ => []

/-- Unifies the store of `child` into that of `parent` and returns the store that owns the joint
list. Nothing happens if either handle is unknown or both already read the same list. -/
def unify (table : StoreTable) (parent child : StoreRef) : Option StoreRef × StoreTable :=
  match table.resolve parent, table.resolve child with
  | some parentRoot, some childRoot =>
    if parentRoot = childRoot then (some parentRoot, table)
    else
      let moved := table.values child
      let joined := table.modifyOwned parentRoot (· ++ moved)
      (some parentRoot, ⟨joined.slots.setIfInBounds childRoot.index (.merged parentRoot)⟩)
  | _, _ => (none, table)

/-- The reading view of the table. -/
def view (table : StoreTable) : Captures := ⟨table.values⟩

end StoreTable

end CommandGrammar
