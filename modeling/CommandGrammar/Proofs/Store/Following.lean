import CommandGrammar.Proofs.Store.Calls

/-! # Following redirections comes to an end

Resolution counts the places that it looks at. The loop that is meant by it does not: it follows
redirections for as long as there are any, and would run for ever in a table that redirects in a
circle. No sequence of calls builds such a table, because only places that own a list are ever
redirected, to other places that own one.
-/

namespace CommandGrammar.StoreTable

variable {table : StoreTable}

/-- What following redirections without a bound comes to from a handle: the places of the table
that it looks at, in order, and the store that it ends with, if there is one. Where it would run for
ever it comes to nothing. -/
inductive Follows (table : StoreTable) : StoreRef → List StoreRef → Option StoreRef → Prop
  | unknown {store : StoreRef} (hslot : table.slots[store.index]? = none) :
      Follows table store [] none
  | owned {store : StoreRef} {values : List String}
      (hslot : table.slots[store.index]? = some (.owned values)) :
      Follows table store [store] (some store)
  | merged {store next : StoreRef} {visited : List StoreRef} {answer : Option StoreRef}
      (hslot : table.slots[store.index]? = some (.merged next))
      (hrest : Follows table next visited answer) :
      Follows table store (store :: visited) answer

namespace Follows

variable {store : StoreRef} {visited : List StoreRef} {answer : Option StoreRef}

theorem of_not_contains (hunknown : table.contains store = false) :
    table.Follows store [] none :=
  .unknown (by simpa [contains, Array.getElem?_eq_none_iff] using hunknown)

theorem of_chain {places : List StoreRef} {root : StoreRef}
    (hchain : table.Chain store places root) : table.Follows store places (some root) := by
  induction hchain with
  | owned hslot => exact .owned hslot
  | merged hslot _ ih => exact .merged hslot ih

/-- The loop makes no choices. -/
theorem unique (hfollows : table.Follows store visited answer) {others : List StoreRef}
    {other : Option StoreRef} (hother : table.Follows store others other) :
    others = visited ∧ other = answer := by
  induction hfollows generalizing others other with
  | unknown hslot =>
      cases hother with
      | unknown => exact ⟨rfl, rfl⟩
      | owned howned => simp [hslot] at howned
      | merged hmerged => simp [hslot] at hmerged
  | owned hslot =>
      cases hother with
      | unknown hunknown => simp [hslot] at hunknown
      | owned => exact ⟨rfl, rfl⟩
      | merged hmerged => simp [hslot] at hmerged
  | merged hslot _ ih =>
      cases hother with
      | unknown hunknown => simp [hslot] at hunknown
      | owned howned => simp [hslot] at howned
      | merged hmerged hrest =>
          obtain rfl := StoreSlot.merged.inj (Option.some.inj (hslot.symm.trans hmerged))
          obtain ⟨rfl, rfl⟩ := ih hrest
          exact ⟨rfl, rfl⟩

/-- Counting the places changes nothing, if there is one count to spare. -/
theorem follow_eq (hfollows : table.Follows store visited answer) {fuel : Nat}
    (hfuel : visited.length < fuel) : table.follow fuel store = answer := by
  induction hfollows generalizing fuel with
  | unknown hslot =>
      obtain ⟨fuel, rfl⟩ := Nat.exists_eq_succ_of_ne_zero (Nat.ne_zero_of_lt hfuel)
      rw [follow, hslot]
  | owned hslot =>
      obtain ⟨fuel, rfl⟩ := Nat.exists_eq_succ_of_ne_zero (Nat.ne_zero_of_lt hfuel)
      rw [follow, hslot]
  | merged hslot _ ih =>
      obtain ⟨fuel, rfl⟩ := Nat.exists_eq_succ_of_ne_zero (Nat.ne_zero_of_lt hfuel)
      rw [follow, hslot]
      exact ih (Nat.lt_of_succ_lt_succ hfuel)

end Follows

/-- In a table in which every handle resolves the loop ends with what it resolves to, looks at no
place twice, and looks at nothing but places of the table. -/
theorem Grounded.exists_follows (hgrounded : table.Grounded) (store : StoreRef) :
    ∃ visited, table.Follows store visited (table.resolve store) ∧ visited.Nodup ∧
      visited.length ≤ table.slots.size := by
  cases hcontains : table.contains store with
  | false =>
      have hnone := hgrounded.resolve_eq_none_iff.mpr hcontains
      rw [hnone]
      exact ⟨[], .of_not_contains hcontains, List.nodup_nil, Nat.zero_le _⟩
  | true =>
      obtain ⟨root, hroot⟩ := hgrounded store hcontains
      obtain ⟨places, hchain⟩ := resolve_eq_some_iff.mp hroot
      rw [hroot]
      exact ⟨places, .of_chain hchain, hchain.nodup, hchain.length_le⟩

theorem Grounded.callAll (hgrounded : table.Grounded) (calls : List StoreCall) :
    (table.callAll calls).2.Grounded := by
  induction calls generalizing table with
  | nil => exact hgrounded
  | cons next rest ih => exact ih (hgrounded.call next)

/-- Whatever was called on an empty table, and with whatever handles, following redirections comes
to an end from every handle, and to only one. It looks at no place twice, so at no more places than
the table has, and finds what resolution answers, which no larger count would change: none exactly
for a handle that was not given out, and otherwise a store that owns a list. -/
theorem callAll_following_ends (calls : List StoreCall) (store : StoreRef) :
    let table := (empty.callAll calls).2
    (∃ visited, (∀ others answer, table.Follows store others answer ↔
        others = visited ∧ answer = table.resolve store) ∧
      visited.Nodup ∧ visited.length ≤ table.slots.size) ∧
    (∀ fuel, table.slots.size < fuel → table.follow fuel store = table.resolve store) ∧
    (table.resolve store = none ↔ table.contains store = false) ∧
    ∀ root, table.resolve store = some root →
      ∃ values, table.slots[root.index]? = some (.owned values) := by
  intro table
  have hgrounded : table.Grounded := Grounded.empty.callAll calls
  obtain ⟨visited, hfollows, hnodup, hlength⟩ := hgrounded.exists_follows store
  refine ⟨⟨visited, fun others answer => ⟨hfollows.unique, ?_⟩, hnodup, hlength⟩, ?_,
    hgrounded.resolve_eq_none_iff, fun root hroot => ⟨_, values_of_resolve hroot⟩⟩
  · rintro ⟨rfl, rfl⟩
    exact hfollows
  · intro fuel hfuel
    exact hfollows.follow_eq (Nat.lt_of_le_of_lt hlength hfuel)

/-- Redirections lead to later places as well as to earlier ones. -/
example :
    let table := (empty.callAll [.create, .create, .create, .unify ⟨2⟩ ⟨0⟩, .unify ⟨1⟩ ⟨0⟩]).2
    table.slots = #[.merged ⟨2⟩, .owned [], .merged ⟨1⟩] ∧ table.resolve ⟨0⟩ = some ⟨1⟩ := by
  decide

end CommandGrammar.StoreTable
