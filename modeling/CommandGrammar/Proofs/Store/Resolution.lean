import CommandGrammar.Store

/-! # Resolution of store handles

Recording and clearing change the list at one place of the table and no redirection. Whatever a
handle resolves to is therefore a matter of the shape of the table alone, and what a handle reads
afterwards depends only on whether it reads the same list as the handle that was written.
-/

namespace CommandGrammar

/-- The store that a place redirects to; none for a place with a list of its own. -/
def StoreSlot.target? : StoreSlot → Option StoreRef
  | .owned _ => none
  | .merged next => some next

namespace StoreTable

/-- Two tables with the same places and the same redirections, whatever their lists hold. -/
def SameShape (left right : StoreTable) : Prop :=
  ∀ place : Nat,
    left.slots[place]?.map StoreSlot.target? = right.slots[place]?.map StoreSlot.target?

namespace SameShape

variable {left middle right : StoreTable}

theorem refl (table : StoreTable) : table.SameShape table := fun _ => rfl

theorem trans (hfirst : left.SameShape middle) (hsecond : middle.SameShape right) :
    left.SameShape right :=
  fun place => (hfirst place).trans (hsecond place)

theorem symm (hshape : left.SameShape right) : right.SameShape left := fun place =>
  (hshape place).symm

theorem size_eq (hshape : left.SameShape right) : left.slots.size = right.slots.size := by
  have hnone : ∀ place, left.slots.size ≤ place ↔ right.slots.size ≤ place := by
    intro place
    rw [← Array.getElem?_eq_none_iff, ← Array.getElem?_eq_none_iff,
      ← Option.map_eq_none_iff (f := StoreSlot.target?), hshape place, Option.map_eq_none_iff]
  have hleft := hnone left.slots.size
  have hright := hnone right.slots.size
  omega

theorem contains_eq (hshape : left.SameShape right) (store : StoreRef) :
    left.contains store = right.contains store := by
  simp only [contains, hshape.size_eq]

theorem follow_eq (hshape : left.SameShape right) (fuel : Nat) (store : StoreRef) :
    left.follow fuel store = right.follow fuel store := by
  induction fuel generalizing store with
  | zero => rfl
  | succ fuel ih =>
      have hplace := hshape store.index
      cases hleft : left.slots[store.index]? with
      | none =>
          cases hright : right.slots[store.index]? with
          | none => simp only [follow, hleft, hright]
          | some slot => simp [hleft, hright] at hplace
      | some leftSlot =>
          cases hright : right.slots[store.index]? with
          | none => simp [hleft, hright] at hplace
          | some rightSlot =>
              cases leftSlot <;> cases rightSlot <;>
                simp_all [follow, StoreSlot.target?]

theorem resolve_eq (hshape : left.SameShape right) (store : StoreRef) :
    left.resolve store = right.resolve store := by
  rw [resolve, resolve, hshape.size_eq]
  exact hshape.follow_eq _ store

theorem isUnified_eq (hshape : left.SameShape right) (a b : StoreRef) :
    left.isUnified a b = right.isUnified a b := by
  simp only [isUnified, hshape.resolve_eq]

end SameShape

variable (table : StoreTable)

/-! ## What a handle resolves to -/

theorem follow_owned {table : StoreTable} {fuel : Nat} {store root : StoreRef}
    (hfollow : table.follow fuel store = some root) :
    ∃ values, table.slots[root.index]? = some (.owned values) := by
  induction fuel generalizing store with
  | zero => simp [follow] at hfollow
  | succ fuel ih =>
      cases hslot : table.slots[store.index]? with
      | none => simp [follow, hslot] at hfollow
      | some slot =>
          cases slot with
          | owned values =>
              simp only [follow, hslot, Option.some.injEq] at hfollow
              exact ⟨values, hfollow ▸ hslot⟩
          | merged next =>
              simp only [follow, hslot] at hfollow
              exact ih hfollow

/-- A handle that resolves reads the list at the place that it resolves to. -/
theorem values_of_resolve {table : StoreTable} {store root : StoreRef}
    (hresolve : table.resolve store = some root) :
    table.slots[root.index]? = some (.owned (table.values store)) := by
  obtain ⟨values, hslot⟩ := follow_owned hresolve
  simp only [StoreTable.values, hresolve, hslot]

theorem values_of_resolve_none {table : StoreTable} {store : StoreRef}
    (hresolve : table.resolve store = none) : table.values store = [] := by
  simp only [values, hresolve]

/-- A place with a list of its own is what its own handle resolves to. -/
theorem resolve_owned {table : StoreTable} {store : StoreRef} {values : List String}
    (hslot : table.slots[store.index]? = some (.owned values)) :
    table.resolve store = some store := by
  obtain ⟨hbound, _⟩ := Array.getElem?_eq_some_iff.mp hslot
  obtain ⟨fuel, hfuel⟩ := Nat.exists_eq_succ_of_ne_zero (Nat.ne_zero_of_lt hbound)
  rw [resolve, hfuel, follow, hslot]

theorem values_owned {table : StoreTable} {store : StoreRef} {values : List String}
    (hslot : table.slots[store.index]? = some (.owned values)) : table.values store = values := by
  have hread := values_of_resolve (resolve_owned hslot)
  rw [hslot] at hread
  simpa using hread.symm

/-- A table is determined by its shape and by what its handles read. -/
theorem SameShape.eq_of_values {left right : StoreTable} (hshape : left.SameShape right)
    (hvalues : ∀ store, left.values store = right.values store) : left = right := by
  have hslots : left.slots = right.slots := by
    apply Array.ext_getElem?
    intro place
    have hplace := hshape place
    cases hl : left.slots[place]? with
    | none =>
        rw [hl, Option.map_none, eq_comm, Option.map_eq_none_iff] at hplace
        exact hplace.symm
    | some slot =>
        rw [hl, Option.map_some, eq_comm, Option.map_eq_some_iff] at hplace
        obtain ⟨other, hr, htarget⟩ := hplace
        rw [hr]
        cases slot with
        | owned values =>
            cases other with
            | owned others =>
                have hread := hvalues ⟨place⟩
                rw [values_owned hl, values_owned hr] at hread
                rw [hread]
            | merged next => simp [StoreSlot.target?] at htarget
        | merged next =>
            cases other with
            | owned others => simp [StoreSlot.target?] at htarget
            | merged into => simpa [StoreSlot.target?, eq_comm] using htarget
  cases left
  cases right
  exact congrArg StoreTable.mk hslots

theorem isUnified_iff {a b : StoreRef} :
    table.isUnified a b = true ↔
      ∃ root, table.resolve a = some root ∧ table.resolve b = some root := by
  cases ha : table.resolve a with
  | none => simp [isUnified, ha]
  | some rootA =>
      cases hb : table.resolve b with
      | none => simp [isUnified, ha, hb]
      | some rootB =>
          simp only [isUnified, ha, hb, beq_iff_eq, Option.some.injEq]
          exact ⟨fun heq => ⟨rootB, heq, rfl⟩, fun ⟨_, hrootA, hrootB⟩ => hrootA.trans hrootB.symm⟩

theorem isUnified_of_resolve {table : StoreTable} {a root : StoreRef}
    (hresolve : table.resolve a = some root) (b : StoreRef) :
    table.isUnified a b = decide (table.resolve b = some root) := by
  rw [Bool.eq_iff_iff, isUnified_iff, decide_eq_true_iff, hresolve]
  simp [eq_comm]

theorem isUnified_of_resolve_none {table : StoreTable} {a : StoreRef}
    (hresolve : table.resolve a = none) (b : StoreRef) : table.isUnified a b = false := by
  simp only [isUnified, hresolve]

/-! ## Known handles -/

theorem contains_create_of_contains {table : StoreTable} {store : StoreRef}
    (hcontains : table.contains store = true) : table.create.2.contains store = true := by
  simp only [contains, create, Array.size_push, decide_eq_true_eq] at hcontains ⊢
  omega

theorem contains_unify (parent child store : StoreRef) :
    (table.unify parent child).2.contains store = table.contains store := by
  unfold unify
  split
  · split
    · rfl
    · simp [contains, modifyOwned]
  · rfl

/-! ## Recording and clearing -/

theorem modifyOwned_sameShape (root : StoreRef) (change : List String → List String) :
    (table.modifyOwned root change).SameShape table := by
  intro place
  simp only [modifyOwned, Array.getElem?_modify]
  split
  · cases hslot : table.slots[place]? with
    | none => rfl
    | some slot => cases slot <;> rfl
  · rfl

theorem values_modifyOwned (root store : StoreRef) (change : List String → List String)
    (hroot : table.resolve store = some root) (other : StoreRef) :
    (table.modifyOwned root change).values other =
      if table.isUnified store other then change (table.values other) else table.values other := by
  -- No redirection changes, so the places that the two handles resolve to decide.
  rw [isUnified_of_resolve hroot]
  have hafter := (table.modifyOwned_sameShape root change).resolve_eq other
  cases hother : table.resolve other with
  | none =>
      rw [hother] at hafter
      simp [values_of_resolve_none hafter, values_of_resolve_none hother]
  | some otherRoot =>
      rw [hother] at hafter
      have hbefore := values_of_resolve hother
      have hslot := values_of_resolve hafter
      by_cases hsame : otherRoot = root
      · subst hsame
        simp only [modifyOwned, Array.getElem?_modify, hbefore, if_true, Option.map_some,
          Option.some.injEq, StoreSlot.owned.injEq] at hslot
        simpa [modifyOwned] using hslot.symm
      · have hindex : root.index ≠ otherRoot.index := by
          cases root
          cases otherRoot
          simpa [eq_comm] using hsame
        simp only [modifyOwned, Array.getElem?_modify, hbefore, if_neg hindex,
          Option.some.injEq, StoreSlot.owned.injEq] at hslot
        simpa [modifyOwned, hsame] using hslot.symm

theorem push_sameShape (store : StoreRef) (token : String) :
    (table.push store token).1.SameShape table := by
  unfold push
  split
  · exact .refl table
  · exact table.modifyOwned_sameShape _ _

/-- A recorded token is read by the handles of the same list and by no other. -/
theorem values_push (store : StoreRef) (token : String) (other : StoreRef) :
    (table.push store token).1.values other =
      if table.isUnified store other then table.values other ++ [token]
      else table.values other := by
  unfold push
  cases hresolve : table.resolve store with
  | none => simp [isUnified_of_resolve_none hresolve]
  | some root => exact table.values_modifyOwned root store _ hresolve other

theorem clear_sameShape (store : StoreRef) : (table.clear store).SameShape table := by
  unfold clear
  split
  · exact .refl table
  · exact table.modifyOwned_sameShape _ _

/-- Clearing empties the handles of the same list and leaves every other one alone. -/
theorem values_clear (store other : StoreRef) :
    (table.clear store).values other =
      if table.isUnified store other then [] else table.values other := by
  unfold clear
  cases hresolve : table.resolve store with
  | none => simp [isUnified_of_resolve_none hresolve]
  | some root => exact table.values_modifyOwned root store _ hresolve other

theorem foldl_clear_sameShape (stores : List StoreRef) :
    (stores.foldl clear table).SameShape table := by
  induction stores generalizing table with
  | nil => exact .refl table
  | cons store rest ih => exact (ih (table.clear store)).trans (table.clear_sameShape store)

theorem values_foldl_clear (stores : List StoreRef) (other : StoreRef) :
    (stores.foldl clear table).values other =
      if stores.any (table.isUnified · other) then [] else table.values other := by
  induction stores generalizing table with
  | nil => rfl
  | cons store rest ih =>
      rw [List.foldl_cons, ih, values_clear]
      simp only [(table.clear_sameShape store).isUnified_eq, List.any_cons]
      by_cases hsame : table.isUnified store other = true <;> simp [hsame]

/-- Which stores are cleared matters, and not in which order or how often. -/
theorem foldl_clear_congr {first second : List StoreRef}
    (hmem : ∀ store, store ∈ first ↔ store ∈ second) :
    first.foldl clear table = second.foldl clear table := by
  have hshape := (table.foldl_clear_sameShape first).trans
    (table.foldl_clear_sameShape second).symm
  refine hshape.eq_of_values fun other => ?_
  have hany : first.any (table.isUnified · other) = second.any (table.isUnified · other) := by
    rw [Bool.eq_iff_iff, List.any_eq_true, List.any_eq_true]
    simp only [hmem]
  rw [values_foldl_clear, values_foldl_clear, hany]

end StoreTable

end CommandGrammar
