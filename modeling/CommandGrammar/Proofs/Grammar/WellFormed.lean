import CommandGrammar.Proofs.Grammar.Advance
import CommandGrammar.Proofs.Grammar.Construction

/-! # Well-formed grammars

Every handle that a grammar stores is known to it, and a wildcard child is stored twice, in its
own slot and among the children, with the same value. Both copies are read: stepping falls to the
slot, and clearing follows the children.
-/

namespace CommandGrammar.Grammar

variable {R : Type}

/-- The handles in the nodes are known, and the two copies of a wildcard child agree. -/
structure WellFormed (grammar : Grammar R) : Prop where
  mirrored : ∀ (index : Nat) (node : Node R), grammar.nodes[index]? = some node →
    node.WildcardMirrored
  children_stored : ∀ source target, grammar.Edge source target → target < grammar.nodes.size
  stores_known : ∀ index own, grammar.storeAt index = some own →
    grammar.stores.contains own = true

theorem SameStructure.storeAt_eq {left right : Grammar R} (hsame : left.SameStructure right) :
    left.storeAt = right.storeAt := by
  funext index
  simp only [storeAt, hsame.nodes_eq]

theorem SameStructure.edge_eq {left right : Grammar R} (hsame : left.SameStructure right) :
    left.Edge = right.Edge := by
  funext source target
  simp only [Edge, hsame.nodes_eq]

/-- Behind a new edge every node is as it was, or it is the parent and has the child under the
key. -/
theorem node_of_node_link {grammar : Grammar R} {parent child index : Nat} {key : String}
    {node : Node R} (hnode : (grammar.link parent key child).1.nodes[index]? = some node) :
    ∃ before, grammar.nodes[index]? = some before ∧
      (node = before ∨ index = parent ∧ node = before.insertChild key child) := by
  rw [nodes_link, Array.getElem?_modify] at hnode
  split at hnode
  next hindex =>
    obtain ⟨before, hbefore, rfl⟩ := Option.map_eq_some_iff.mp hnode
    exact ⟨before, hbefore, .inr ⟨hindex.symm, rfl⟩⟩
  next => exact ⟨node, hnode, .inl rfl⟩

theorem edge_of_edge_link {grammar : Grammar R} {parent child source target : Nat} {key : String}
    (hedge : (grammar.link parent key child).1.Edge source target) :
    grammar.Edge source target ∨ source = parent ∧ target = child := by
  obtain ⟨node, other, hnode, htarget⟩ := hedge
  obtain ⟨before, hbefore, rfl | ⟨rfl, rfl⟩⟩ := node_of_node_link hnode
  · exact .inl ⟨node, other, hbefore, htarget⟩
  · rw [Node.child?_insertChild] at htarget
    split at htarget
    · exact .inr ⟨rfl, (Option.some.inj htarget).symm⟩
    · exact .inl ⟨before, other, hbefore, htarget⟩

namespace WellFormed

variable {grammar : Grammar R}

theorem empty : (Grammar.empty : Grammar R).WellFormed := by
  refine ⟨?_, ?_, ?_⟩
  · intro index node hnode
    simp [Grammar.empty] at hnode
  · rintro source target ⟨node, key, hnode, _⟩
    simp [Grammar.empty] at hnode
  · intro index own hown
    simp [Grammar.empty, storeAt] at hown

theorem of_sameStructure {other : Grammar R} (hwf : grammar.WellFormed)
    (hsame : other.SameStructure grammar) : other.WellFormed := by
  refine ⟨?_, ?_, ?_⟩
  · intro index node hnode
    exact hwf.mirrored index node (hsame.nodes_eq ▸ hnode)
  · intro source target hedge
    rw [hsame.nodes_eq]
    exact hwf.children_stored source target (hsame.edge_eq ▸ hedge)
  · intro index own hown
    rw [hsame.stores.contains_eq]
    exact hwf.stores_known index own (hsame.storeAt_eq ▸ hown)

theorem newStore (hwf : grammar.WellFormed) : grammar.newStore.2.WellFormed :=
  ⟨hwf.mirrored, hwf.children_stored, fun index own hown =>
    StoreTable.contains_create_of_contains (hwf.stores_known index own hown)⟩

theorem push_bare (hwf : grammar.WellFormed) (spec : NodeSpec R) (store : Option StoreRef)
    (hstore : ∀ own, store = some own → grammar.stores.contains own = true) :
    ({ grammar with nodes := grammar.nodes.push (spec.bare store) } : Grammar R).WellFormed := by
  refine ⟨?_, ?_, ?_⟩
  · intro index node hnode
    rw [Array.getElem?_push] at hnode
    split at hnode
    · obtain rfl : spec.bare store = node := by simpa using hnode
      simp [Node.WildcardMirrored, NodeSpec.bare, Node.child?]
    · exact hwf.mirrored index node hnode
  · rintro source target ⟨node, key, hnode, hchild⟩
    rw [Array.getElem?_push] at hnode
    rw [Array.size_push]
    split at hnode
    · obtain rfl : spec.bare store = node := by simpa using hnode
      simp [NodeSpec.bare, Node.child?] at hchild
    · exact Nat.lt_succ_of_lt (hwf.children_stored source target ⟨node, key, hnode, hchild⟩)
  · intro index own hown
    simp only [storeAt, Array.getElem?_push] at hown
    split at hown
    · exact hstore own (by simpa [NodeSpec.bare] using hown)
    · exact hwf.stores_known index own hown

theorem link (hwf : grammar.WellFormed) (parent : Nat) (key : String) {child : Nat}
    (hchild : child < grammar.nodes.size) : (grammar.link parent key child).1.WellFormed := by
  refine ⟨?_, ?_, ?_⟩
  · intro index node hnode
    obtain ⟨before, hbefore, rfl | ⟨_, rfl⟩⟩ := node_of_node_link hnode
    · exact hwf.mirrored index node hbefore
    · exact (hwf.mirrored index before hbefore).insertChild key child
  · intro source target hedge
    rw [size_link]
    rcases edge_of_edge_link hedge with hedge | ⟨rfl, rfl⟩
    · exact hwf.children_stored source target hedge
    · exact hchild
  · intro index own hown
    have hbefore : grammar.storeAt index = some own := by
      obtain ⟨node, hnode, hown⟩ := Option.bind_eq_some_iff.mp hown
      obtain ⟨before, hbefore, rfl | ⟨_, rfl⟩⟩ := node_of_node_link hnode
      · exact Option.bind_eq_some_iff.mpr ⟨node, hbefore, hown⟩
      · exact Option.bind_eq_some_iff.mpr ⟨before, hbefore, hown⟩
    rw [contains_stores_link]
    exact hwf.stores_known index own hbefore

theorem of_grows {other : Grammar R} (hwf : grammar.WellFormed) (hgrows : grammar.Grows other) :
    other.WellFormed := by
  cases hgrows with
  | store => exact hwf.newStore
  | node spec store hstore => exact hwf.push_bare spec store hstore
  | edge parent key child hparent hchild => exact hwf.link parent key hchild

theorem of_steps {other : Grammar R} (hwf : grammar.WellFormed)
    (hsteps : Relation.ReflTransGen Grows grammar other) : other.WellFormed := by
  induction hsteps with
  | refl => exact hwf
  | tail _ hstep ih => exact ih.of_grows hstep

end WellFormed

/-- Construction neither records nor unearths a token. -/
theorem Grows.drained {grammar other : Grammar R} (hgrows : grammar.Grows other)
    (hdrained : grammar.stores.Drained) : other.stores.Drained := by
  cases hgrows with
  | store => exact hdrained.create
  | node => exact hdrained
  | edge parent key child =>
      rw [stores_link]
      split
      · exact hdrained.unify _ _
      · exact hdrained

/-- A token that leads from a stored place to another follows a child edge. -/
theorem WellFormed.edge_of_lookup {grammar : Grammar R} (hwf : grammar.WellFormed)
    {source target : Nat} {token : String}
    (hlookup : grammar.lookup (.stored source) token = .stored target) :
    grammar.Edge source target := by
  unfold lookup at hlookup
  cases hnode : grammar.node? (.stored source) with
  | none => simp [hnode] at hlookup
  | some node =>
      cases hstep : node.step? token with
      | none => simp [hnode, hstep] at hlookup
      | some step =>
          obtain ⟨index, fell⟩ := step
          obtain rfl : index = target := by simpa [hnode, hstep] using hlookup
          unfold Node.step? at hstep
          cases hchild : node.child? token with
          | some child =>
              simp only [hchild, Option.some.injEq, Prod.mk.injEq] at hstep
              exact ⟨node, token, hnode, hstep.1 ▸ hchild⟩
          | none =>
              simp only [hchild, Option.map_eq_some_iff, Prod.mk.injEq] at hstep
              obtain ⟨child, hslot, rfl, _⟩ := hstep
              -- The slot is no edge by itself; its copy among the children is.
              rw [hwf.mirrored source node hnode] at hslot
              exact ⟨node, wildcard, hnode, hslot⟩

end CommandGrammar.Grammar
