import CommandGrammar.Grammar

/-! # Building grammars

Grammars grow bottom up: a node is described with the children that it starts with and is then
added. Branches and capturing nodes also take children later; executable nodes do not, so what
runs at a node cannot be shadowed after the fact. An edge between two capturing nodes unifies
their stores. Every operation either fails and leaves the grammar alone or succeeds as a whole.
-/

namespace CommandGrammar

/-- Where a node to be built captures. -/
inductive CaptureTarget where
  /-- Nowhere. -/
  | nowhere
  /-- Into a store created for it. -/
  | fresh
  /-- Into an existing store. -/
  | into (store : StoreRef)
deriving DecidableEq, Repr

/-- The description of a node to be built. -/
structure NodeSpec (R : Type) where
  name : String
  help : Option String := none
  aliasName : Option String := none
  children : List NodeRef := []
  target : CaptureTarget := .nowhere
  action : Option (Action R) := none

namespace NodeSpec

variable {R : Type}

/-- A node that only routes. -/
def branch (name : String) : NodeSpec R := { name }

/-- A node that captures into a store of its own. -/
def capturing (name : String) : NodeSpec R := { name, target := .fresh }

/-- A node with an action that reads the captures. -/
def executable (name : String) (action : Action R) : NodeSpec R :=
  { name, action := some action }

/-- A node that captures into a store of its own and has an action. -/
def capturingExecutable (name : String) (action : Action R) : NodeSpec R :=
  { name, target := .fresh, action := some action }

end NodeSpec

namespace Grammar

variable {R : Type}

/-- The place of a known handle. -/
def place? (grammar : Grammar R) : NodeRef → Option Nat
  | .notFound => none
  | .stored index => if index < grammar.nodes.size then some index else none

/-- The places of handles that must all be known; the first unknown one is the error. -/
def places (grammar : Grammar R) : List NodeRef → Except Error (List Nat)
  | [] => .ok []
  | node :: rest =>
    match grammar.place? node with
    | none => .error (.unknownNode node)
    | some index => (grammar.places rest).map (index :: ·)

/-- The name of the node at a place. -/
def nameAt (grammar : Grammar R) (index : Nat) : String :=
  match grammar.nodes[index]? with
  | some node => node.name
  | none => ""

/-- The store of the node at a place. -/
def storeAt (grammar : Grammar R) (index : Nat) : Option StoreRef :=
  grammar.nodes[index]?.bind (·.store)

/-- Adds an edge between two places. If both nodes capture, the child's store is unified into
the parent's first. Another child under the same key is replaced, which the trace reports. -/
def link (grammar : Grammar R) (parent : Nat) (key : String) (child : Nat) : Grammar R × Trace :=
  match grammar.nodes[parent]? with
  | none => (grammar, [])
  | some parentNode =>
    let stores :=
      match parentNode.store, grammar.storeAt child with
      | some parentStore, some childStore => (grammar.stores.unify parentStore childStore).2
      | _, _ => grammar.stores
    let trace :=
      match parentNode.child? key with
      | some previous =>
        if previous = child then []
        else [Event.replacedChild parentNode.name (.stored previous) (.stored child)]
      | none => []
    (⟨grammar.nodes.setIfInBounds parent (parentNode.insertChild key child), stores⟩, trace)

/-- Adds edges to children under the given keys, in order. -/
def linkAll (grammar : Grammar R) (parent : Nat) : List (String × Nat) → Grammar R × Trace
  | [] => (grammar, [])
  | (key, child) :: rest =>
    let (linked, trace) := grammar.link parent key child
    let (final, more) := linked.linkAll parent rest
    (final, trace ++ more)

/-- Adds edges to children under their own names, in order. -/
def linkNamed (grammar : Grammar R) (parent : Nat) (children : List Nat) : Grammar R × Trace :=
  grammar.linkAll parent (children.map fun child => (grammar.nameAt child, child))

/-- The store that a node to be built captures into, created if it has to be. -/
def resolveTarget (grammar : Grammar R) :
    CaptureTarget → Except Error (Option StoreRef × StoreTable)
  | .nowhere => .ok (none, grammar.stores)
  | .fresh =>
    let (store, stores) := grammar.stores.create
    .ok (some store, stores)
  | .into store =>
    if grammar.stores.contains store then .ok (some store, grammar.stores)
    else .error (.unknownStore store)

/-- Adds a node and wires its children under their own names. Every child must be known, and
then an explicitly given store must exist. -/
def build (grammar : Grammar R) (spec : NodeSpec R) : Except Error (Change R NodeRef) := do
  let children ← grammar.places spec.children
  let (store, stores) ← grammar.resolveTarget spec.target
  let index := grammar.nodes.size
  let node : Node R :=
    { name := spec.name, help := spec.help, aliasName := spec.aliasName, store,
      action := spec.action }
  let (wired, trace) := linkNamed ⟨grammar.nodes.push node, stores⟩ index children
  .ok ⟨.stored index, wired, trace ++ [.builtNode (.stored index) spec.name]⟩

/-- Gives a node a child under the child's own name. The position reached when nothing matches
takes any child and keeps none. -/
def attach (grammar : Grammar R) (parent child : NodeRef) :
    Except Error (Change R Unit) :=
  match parent with
  | .notFound => .ok ⟨(), grammar, []⟩
  | .stored parentIndex =>
    match grammar.place? child with
    | none => .error (.unknownNode child)
    | some childIndex =>
      match grammar.nodes[parentIndex]? with
      | none => .error (.unknownNode parent)
      | some parentNode =>
        if parentNode.isExecutable then .error (.attachToExecutable parentNode.name)
        else
          let (linked, trace) := grammar.link parentIndex (grammar.nameAt childIndex) childIndex
          .ok ⟨(), linked, trace⟩

/-- Gives a node several children, each under the key that it comes with. Every child must be
known before the first one is wired. -/
def attachMany (grammar : Grammar R) (parent : NodeRef) (children : List (String × NodeRef)) :
    Except Error (Change R Unit) :=
  match parent with
  | .notFound => .ok ⟨(), grammar, []⟩
  | .stored parentIndex =>
    match grammar.nodes[parentIndex]? with
    | none => .error (.unknownNode parent)
    | some parentNode =>
      if parentNode.isExecutable then .error (.attachToExecutable parentNode.name)
      else if parentNode.isCapturing then .error (.bulkAttachToCapturing parentNode.name)
      else
        match grammar.places (children.map (·.2)) with
        | .error fault => .error fault
        | .ok indices =>
          let (linked, trace) :=
            grammar.linkAll parentIndex ((children.map (·.1)).zip indices)
          .ok ⟨(), linked, trace⟩

end Grammar

end CommandGrammar
