import CommandGrammar.Grammar.Reach

/-! # Flowcharts of grammars

A flowchart lists every reachable node once, in walking order, each followed by its edges in the
order of the keys. Executable nodes are drawn as stadiums and all others as boxes.
-/

namespace CommandGrammar.Diagram

variable {R : Type}

/-- The layout of a flowchart. -/
inductive Direction where
  | leftRight
  | bottomTop
deriving DecidableEq, Repr

/-- The code of a layout. -/
def Direction.code : Direction → String
  | .leftRight => "LR"
  | .bottomTop => "BT"

/-- A label in quotation marks cannot hold one, so it is written as an entity. -/
def escapeLabel (label : String) : String :=
  String.ofList (label.toList.flatMap fun c => if c = '"' then "#quot;".toList else [c])

/-- The identifier of the node at a place. -/
def identifier (index : Nat) : String := "n" ++ toString index

/-- The line that opens a flowchart. -/
def header (direction : Direction) : String := "graph " ++ direction.code

/-- The line of a node. -/
def nodeLine (index : Nat) (node : Node R) : String :=
  let label := "\"" ++ escapeLabel node.displayName ++ "\""
  if node.isExecutable then "    " ++ identifier index ++ "([" ++ label ++ "])"
  else "    " ++ identifier index ++ "[" ++ label ++ "]"

/-- The line of an edge. -/
def edgeLine (source target : Nat) : String :=
  "    " ++ identifier source ++ " --> " ++ identifier target

/-- The lines of a node and of its edges, one edge for each key. -/
def block (index : Nat) (node : Node R) : List String :=
  nodeLine index node :: node.childIndices.map (edgeLine index)

/-- The lines of the nodes at the given places. -/
def blocks (grammar : Grammar R) (indices : List Nat) : List String :=
  indices.flatMap fun index =>
    match grammar.nodes[index]? with
    | some node => block index node
    | none => []

/-- The lines of the flowchart of everything reachable from the given handles. -/
def lines (grammar : Grammar R) (roots : List NodeRef) (direction : Direction) : List String :=
  header direction :: blocks grammar (grammar.reachable roots)

/-- The text of a flowchart, every line closed by a line feed. -/
def render (grammar : Grammar R) (roots : List NodeRef) (direction : Direction) : String :=
  String.join ((lines grammar roots direction).map (· ++ "\n"))

end CommandGrammar.Diagram
