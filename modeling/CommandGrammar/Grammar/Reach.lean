import CommandGrammar.Grammar

/-! # Reachable nodes

The nodes that can be reached from given positions along child edges, in the order of a
depth-first walk that follows children in the order of their keys and skips what it has seen.
Clearing captures empties the stores of all nodes reached, and nothing else.
-/

namespace CommandGrammar.Grammar

variable {R : Type}

/-- How many places of the grammar the walk has not seen yet. -/
def unseen (grammar : Grammar R) (seen : List Nat) : Nat :=
  ((List.range grammar.nodes.size).filter fun index => !seen.contains index).length

/-- Seeing a place for the first time leaves fewer places unseen. -/
theorem unseen_lt {grammar : Grammar R} {before after : List Nat} {index : Nat}
    (hindex : index < grammar.nodes.size) (hbefore : index ∉ before) (hafter : index ∈ after)
    (hsubset : before ⊆ after) : grammar.unseen after < grammar.unseen before := by
  have hfilter : (List.range grammar.nodes.size).filter (fun place => !after.contains place) =
      ((List.range grammar.nodes.size).filter (fun place => !before.contains place)).filter
        (fun place => !after.contains place) := by
    rw [List.filter_filter]
    refine List.filter_congr fun place _ => ?_
    by_cases hplace : place ∈ before
    · simp [hplace, hsubset hplace]
    · simp [hplace]
  rw [unseen, unseen, hfilter]
  exact List.length_filter_lt_length_iff_exists.mpr
    ⟨index, by simp [hindex, hbefore], by simp [hafter]⟩

theorem unseen_cons_lt (grammar : Grammar R) {seen : List Nat} {index : Nat}
    (hindex : index < grammar.nodes.size) (hseen : index ∉ seen) :
    grammar.unseen (index :: seen) < grammar.unseen seen :=
  unseen_lt hindex hseen List.mem_cons_self fun _ => List.mem_cons_of_mem _

/-- The walk: `pending` holds the places still to visit, the next one first, and `seen` the
places visited, the last one first. -/
def visit (grammar : Grammar R) : List Nat → List Nat → List Nat
  | [], seen => seen.reverse
  | index :: pending, seen =>
    if h : index < grammar.nodes.size then
      if index ∈ seen then visit grammar pending seen
      else visit grammar (grammar.nodes[index].childIndices ++ pending) (index :: seen)
    else visit grammar pending seen
termination_by pending seen => (grammar.unseen seen, pending.length)
decreasing_by
  · exact Prod.Lex.right _ (by simp)
  · exact Prod.Lex.left _ _ (grammar.unseen_cons_lt h ‹index ∉ seen›)
  · exact Prod.Lex.right _ (by simp)

/-- The places that handles name, in order. -/
def knownPlaces (nodes : List NodeRef) : List Nat :=
  nodes.filterMap fun
    | .notFound => none
    | .stored index => some index

/-- The places reachable from the given handles, in walking order and each once. -/
def reachable (grammar : Grammar R) (roots : List NodeRef) : List Nat :=
  grammar.visit (knownPlaces roots) []

/-- Empties the stores of the nodes at the given places. -/
def clearAt (grammar : Grammar R) (indices : List Nat) : Grammar R :=
  { grammar with
    stores := indices.foldl
      (fun stores index =>
        match grammar.nodes[index]?.bind (·.store) with
        | some store => stores.clear store
        | none => stores)
      grammar.stores }

/-- Empties every store that a node reachable from the given handle captures into. -/
def clearCaptures (grammar : Grammar R) (root : NodeRef) : Grammar R :=
  grammar.clearAt (grammar.reachable [root])

end CommandGrammar.Grammar
