/-! # Handles of nodes and capture stores

A grammar keeps its nodes and its capture stores in tables and hands out their places. Handles
are plain values: they may outlive a grammar, belong to another one, or never have been handed
out, so every operation that takes one says what it does with an unknown handle.
-/

namespace CommandGrammar

/-- Handle of a capture store. -/
structure StoreRef where
  index : Nat
deriving DecidableEq, Repr

namespace StoreRef

/-- The text of a store handle. -/
def display (store : StoreRef) : String := "store#" ++ toString store.index

end StoreRef

/-- Handle of a grammar position: a stored node, or the position reached when nothing matches. -/
inductive NodeRef where
  | notFound
  | stored (index : Nat)
deriving DecidableEq, Repr

namespace NodeRef

/-- The name of the position that is reached when nothing matches. -/
def notFoundName : String := "notFound"

/-- The text of a node handle. -/
def display : NodeRef → String
  | .notFound => "node#" ++ notFoundName
  | .stored index => "node#" ++ toString index

end NodeRef

end CommandGrammar
