import CommandGrammar.Grammar.Build
import CommandGrammar.Proofs.Grammar.Advance
import CommandGrammar.Proofs.Grammar.Reachability

/-! # Clearing captures

Clearing from a handle empties exactly the logical stores that a node reachable from it captures
into. It keeps the nodes and what every store handle resolves to.
-/

namespace CommandGrammar.Grammar

variable {R : Type} (grammar : Grammar R)

/-- A node that child edges lead to from the handle captures into the logical store. -/
def CapturesBelow (root : NodeRef) (store : StoreRef) : Prop :=
  ∃ start index own, root = .stored start ∧ grammar.Reaches start index ∧
    grammar.storeAt index = some own ∧ grammar.sameStore own store = true

theorem stores_clearAt (indices : List Nat) :
    (grammar.clearAt indices).stores =
      (indices.filterMap grammar.storeAt).foldl StoreTable.clear grammar.stores := by
  rw [List.foldl_filterMap]
  simp only [clearAt, storeAt]
  congr 1
  funext stores index
  cases grammar.nodes[index]?.bind (·.store) <;> rfl

theorem storeAt_lt {grammar : Grammar R} {index : Nat} {own : StoreRef}
    (hown : grammar.storeAt index = some own) : index < grammar.nodes.size := by
  obtain ⟨node, hnode, _⟩ := Option.bind_eq_some_iff.mp hown
  exact (Array.getElem?_eq_some_iff.mp hnode).1

theorem clears_iff_capturesBelow (root : NodeRef) (store : StoreRef) :
    ((grammar.reachable [root]).filterMap grammar.storeAt).any (grammar.sameStore · store) = true ↔
      grammar.CapturesBelow root store := by
  simp only [List.any_eq_true, List.mem_filterMap, mem_reachable_iff, List.mem_singleton]
  constructor
  · rintro ⟨own, ⟨index, ⟨_, start, hroot, hreaches⟩, hown⟩, hsame⟩
    exact ⟨start, index, own, hroot.symm, hreaches, hown, hsame⟩
  · rintro ⟨start, index, own, hroot, hreaches, hown, hsame⟩
    exact ⟨own, ⟨index, ⟨storeAt_lt hown, start, hroot.symm, hreaches⟩, hown⟩, hsame⟩

theorem captured_clearCaptures_eq (root : NodeRef) (store : StoreRef) :
    (grammar.clearCaptures root).captured store =
      if ((grammar.reachable [root]).filterMap grammar.storeAt).any (grammar.sameStore · store)
      then [] else grammar.captured store := by
  rw [clearCaptures, captured, stores_clearAt]
  exact grammar.stores.values_foldl_clear _ store

theorem captured_clearCaptures_of_below {grammar : Grammar R} {root : NodeRef} {store : StoreRef}
    (hbelow : grammar.CapturesBelow root store) :
    (grammar.clearCaptures root).captured store = [] := by
  rw [captured_clearCaptures_eq, if_pos ((grammar.clears_iff_capturesBelow root store).mpr hbelow)]

theorem captured_clearCaptures_of_not_below {grammar : Grammar R} {root : NodeRef}
    {store : StoreRef} (hbelow : ¬ grammar.CapturesBelow root store) :
    (grammar.clearCaptures root).captured store = grammar.captured store := by
  rw [captured_clearCaptures_eq, if_neg (mt (grammar.clears_iff_capturesBelow root store).mp hbelow)]

theorem clearCaptures_sameStructure (root : NodeRef) :
    (grammar.clearCaptures root).SameStructure grammar := by
  refine ⟨rfl, ?_⟩
  rw [clearCaptures, stores_clearAt]
  exact grammar.stores.foldl_clear_sameShape _

end CommandGrammar.Grammar
