import CommandGrammar.Proofs.Store.Resolution

/-! # Tables that hold no tokens

In a drained table every handle reads empty. Creating and unifying stores keep a table drained,
and a drained table is determined by its shape: whatever is recorded and cleared again leaves no
mark on it.
-/

namespace CommandGrammar.StoreTable

/-- No place of the table has a list that holds a token. -/
def Drained (table : StoreTable) : Prop :=
  ∀ (place : Nat) (values : List String),
    table.slots[place]? = some (.owned values) → values = []

theorem drained_iff (table : StoreTable) :
    table.Drained ↔ ∀ store, table.values store = [] := by
  constructor
  · intro hdrained store
    cases hresolve : table.resolve store with
    | none => exact values_of_resolve_none hresolve
    | some root => exact hdrained _ _ (values_of_resolve hresolve)
  · intro hempty place values hslot
    exact (values_owned hslot).symm.trans (hempty ⟨place⟩)

namespace Drained

variable {table : StoreTable}

theorem empty : empty.Drained := by
  intro place values hslot
  simp [StoreTable.empty] at hslot

theorem create (hdrained : table.Drained) : table.create.2.Drained := by
  intro place values hslot
  simp only [StoreTable.create, Array.getElem?_push] at hslot
  split at hslot
  · simpa using hslot.symm
  · exact hdrained place values hslot

theorem modifyOwned (hdrained : table.Drained) (root : StoreRef)
    (change : List String → List String) (hchange : change [] = []) :
    (table.modifyOwned root change).Drained := by
  intro place values hslot
  simp only [StoreTable.modifyOwned, Array.getElem?_modify] at hslot
  split at hslot
  · obtain ⟨slot, hplace, hslot⟩ := Option.map_eq_some_iff.mp hslot
    cases slot with
    | owned before =>
        rw [hdrained place before hplace] at hslot
        simpa [hchange] using hslot.symm
    | merged next => simp at hslot
  · exact hdrained place values hslot

/-- Joining two empty lists gives an empty list. -/
theorem unify (hdrained : table.Drained) (parent child : StoreRef) :
    (table.unify parent child).2.Drained := by
  unfold StoreTable.unify
  split
  next parentRoot childRoot _ _ =>
    split
    · exact hdrained
    · intro place values hslot
      -- The list that moves is empty, and the place that it leaves turns into a redirection.
      have hmoved := table.drained_iff.mp hdrained child
      have hjoined := hdrained.modifyOwned parentRoot (· ++ table.values child) (by simp [hmoved])
      simp only [Array.getElem?_setIfInBounds] at hslot
      split at hslot
      · split at hslot <;> simp at hslot
      · exact hjoined place values hslot
  next => exact hdrained

/-- Two drained tables of the same shape are the same table. -/
theorem eq_of_sameShape {left right : StoreTable} (hleft : left.Drained) (hright : right.Drained)
    (hshape : left.SameShape right) : left = right :=
  hshape.eq_of_values fun store => by
    rw [left.drained_iff.mp hleft store, right.drained_iff.mp hright store]

end Drained

end CommandGrammar.StoreTable
