import CommandGrammar.Proofs.Store.Resolution
import Mathlib.Data.List.Nodup
import Mathlib.Data.List.Perm.Subperm

/-! # The forest of redirections

Unification redirects only places that own a list, so redirections form a forest whose roots are
the lists. From every allocated handle a chain of redirections leads to a root. A chain visits no
place twice, which is why as many steps as the table has places suffice to follow it.
-/

namespace CommandGrammar

theorem StoreRef.index_inj {a b : StoreRef} : a.index = b.index ↔ a = b := by
  cases a
  cases b
  simp

namespace StoreTable

variable {table : StoreTable}

/-! ## Chains -/

/-- The places visited from a handle on, in order, up to the store that owns the list. -/
inductive Chain (table : StoreTable) : StoreRef → List StoreRef → StoreRef → Prop
  | owned {store : StoreRef} {values : List String}
      (hslot : table.slots[store.index]? = some (.owned values)) :
      Chain table store [store] store
  | merged {store next root : StoreRef} {places : List StoreRef}
      (hslot : table.slots[store.index]? = some (.merged next))
      (hrest : Chain table next places root) :
      Chain table store (store :: places) root

namespace Chain

variable {store root : StoreRef} {places : List StoreRef}

/-- Where a place redirects to is its own affair, so a handle has one chain. -/
theorem unique (hchain : table.Chain store places root) {others : List StoreRef}
    {other : StoreRef} (hother : table.Chain store others other) :
    others = places ∧ other = root := by
  induction hchain generalizing others other with
  | owned hslot =>
      cases hother with
      | owned => exact ⟨rfl, rfl⟩
      | merged hmerged => simp [hslot] at hmerged
  | merged hslot _ ih =>
      cases hother with
      | owned howned => simp [hslot] at howned
      | merged hmerged hrest =>
          obtain rfl := StoreSlot.merged.inj (Option.some.inj (hslot.symm.trans hmerged))
          obtain ⟨rfl, rfl⟩ := ih hrest
          exact ⟨rfl, rfl⟩

theorem lt_size (hchain : table.Chain store places root) :
    ∀ place ∈ places, place.index < table.slots.size := by
  induction hchain with
  | owned hslot =>
      intro place hplace
      obtain rfl := List.mem_singleton.mp hplace
      exact (Array.getElem?_eq_some_iff.mp hslot).1
  | merged hslot _ ih =>
      intro place hplace
      rcases List.mem_cons.mp hplace with rfl | hplace
      · exact (Array.getElem?_eq_some_iff.mp hslot).1
      · exact ih place hplace

/-- From every place that a chain visits, the rest of the chain leads to the same root. -/
theorem of_mem (hchain : table.Chain store places root) {place : StoreRef}
    (hplace : place ∈ places) :
    ∃ rest, rest.length ≤ places.length ∧ table.Chain place rest root := by
  induction hchain with
  | owned hslot =>
      obtain rfl := List.mem_singleton.mp hplace
      exact ⟨_, Nat.le_refl _, .owned hslot⟩
  | @merged store next root places hslot hrest ih =>
      rcases List.mem_cons.mp hplace with rfl | hplace
      · exact ⟨_, Nat.le_refl _, .merged hslot hrest⟩
      · obtain ⟨rest, hlength, hchain⟩ := ih hplace
        exact ⟨rest, Nat.le_succ_of_le hlength, hchain⟩

/-- A chain that came back to a place would be its own proper part. -/
theorem nodup (hchain : table.Chain store places root) : places.Nodup := by
  induction hchain with
  | owned => simp
  | @merged store next root places hslot hrest ih =>
      refine List.nodup_cons.mpr ⟨?_, ih⟩
      intro hrevisited
      obtain ⟨rest, hlength, hshorter⟩ := hrest.of_mem hrevisited
      obtain ⟨hsame, _⟩ := (Chain.merged hslot hrest).unique hshorter
      rw [hsame, List.length_cons] at hlength
      exact absurd hlength (Nat.not_succ_le_self _)

theorem length_le (hchain : table.Chain store places root) :
    places.length ≤ table.slots.size := by
  have hindices : (places.map StoreRef.index).Nodup :=
    List.Nodup.map (fun _ _ => StoreRef.index_inj.mp) hchain.nodup
  have hbounds : places.map StoreRef.index ⊆ List.range table.slots.size := by
    intro index hindex
    obtain ⟨place, hplace, rfl⟩ := List.mem_map.mp hindex
    exact List.mem_range.mpr (hchain.lt_size place hplace)
  simpa using (hindices.subperm hbounds).length_le

theorem follow_eq (hchain : table.Chain store places root) {fuel : Nat}
    (hfuel : places.length ≤ fuel) : table.follow fuel store = some root := by
  induction hchain generalizing fuel with
  | owned hslot =>
      obtain ⟨steps, rfl⟩ := Nat.exists_eq_succ_of_ne_zero (Nat.ne_zero_of_lt hfuel)
      rw [follow, hslot]
  | merged hslot _ ih =>
      obtain ⟨steps, rfl⟩ := Nat.exists_eq_succ_of_ne_zero (Nat.ne_zero_of_lt hfuel)
      rw [follow, hslot]
      exact ih (Nat.le_of_succ_le_succ hfuel)

end Chain

theorem chain_of_follow {fuel : Nat} {store root : StoreRef}
    (hfollow : table.follow fuel store = some root) :
    ∃ places, table.Chain store places root := by
  induction fuel generalizing store with
  | zero => simp [follow] at hfollow
  | succ fuel ih =>
      cases hslot : table.slots[store.index]? with
      | none => simp [follow, hslot] at hfollow
      | some slot =>
          cases slot with
          | owned values =>
              obtain rfl : store = root := by simpa [follow, hslot] using hfollow
              exact ⟨_, .owned hslot⟩
          | merged next =>
              simp only [follow, hslot] at hfollow
              obtain ⟨places, hchain⟩ := ih hfollow
              exact ⟨_, .merged hslot hchain⟩

/-- A handle resolves to the root of its chain. -/
theorem resolve_eq_some_iff {store root : StoreRef} :
    table.resolve store = some root ↔ ∃ places, table.Chain store places root := by
  constructor
  · exact chain_of_follow
  · rintro ⟨places, hchain⟩
    exact hchain.follow_eq hchain.length_le

theorem lt_size_of_resolve {store root : StoreRef} (hresolve : table.resolve store = some root) :
    store.index < table.slots.size := by
  obtain ⟨places, hchain⟩ := resolve_eq_some_iff.mp hresolve
  cases hchain with
  | owned hslot => exact (Array.getElem?_eq_some_iff.mp hslot).1
  | merged hslot => exact (Array.getElem?_eq_some_iff.mp hslot).1

theorem contains_of_resolve {store root : StoreRef} (hresolve : table.resolve store = some root) :
    table.contains store = true :=
  decide_eq_true (lt_size_of_resolve hresolve)

/-- What a handle resolves to resolves to itself. -/
theorem resolve_root {store root : StoreRef} (hresolve : table.resolve store = some root) :
    table.resolve root = some root :=
  resolve_owned (values_of_resolve hresolve)

/-! ## Tables in which every handle resolves -/

/-- Every allocated handle resolves. -/
def Grounded (table : StoreTable) : Prop :=
  ∀ store, table.contains store = true → ∃ root, table.resolve store = some root

theorem Grounded.resolve_eq_none_iff (hgrounded : table.Grounded) {store : StoreRef} :
    table.resolve store = none ↔ table.contains store = false := by
  constructor
  · intro hresolve
    by_contra hcontains
    obtain ⟨root, hroot⟩ := hgrounded store (by simpa using hcontains)
    simp [hresolve] at hroot
  · intro hcontains
    cases hresolve : table.resolve store with
    | none => rfl
    | some root => simp [contains_of_resolve hresolve] at hcontains

theorem Grounded.empty : StoreTable.empty.Grounded := by
  intro store hcontains
  simp [contains, StoreTable.empty] at hcontains

theorem Grounded.of_sameShape {other : StoreTable} (hgrounded : table.Grounded)
    (hshape : other.SameShape table) : other.Grounded := by
  intro store hcontains
  rw [hshape.contains_eq] at hcontains
  rw [hshape.resolve_eq]
  exact hgrounded store hcontains

/-- Every allocated handle reads the same list as itself. -/
theorem Grounded.isUnified_self (hgrounded : table.Grounded) {store : StoreRef}
    (hcontains : table.contains store = true) : table.isUnified store store = true := by
  obtain ⟨root, hroot⟩ := hgrounded store hcontains
  exact table.isUnified_iff.mpr ⟨root, hroot, hroot⟩

theorem isUnified_symm {a b : StoreRef} (hunified : table.isUnified a b = true) :
    table.isUnified b a = true := by
  obtain ⟨root, ha, hb⟩ := table.isUnified_iff.mp hunified
  exact table.isUnified_iff.mpr ⟨root, hb, ha⟩

theorem isUnified_trans {a b c : StoreRef} (hfirst : table.isUnified a b = true)
    (hsecond : table.isUnified b c = true) : table.isUnified a c = true := by
  obtain ⟨root, ha, hb⟩ := table.isUnified_iff.mp hfirst
  obtain ⟨other, hother, hc⟩ := table.isUnified_iff.mp hsecond
  obtain rfl := Option.some.inj (hb.symm.trans hother)
  exact table.isUnified_iff.mpr ⟨root, ha, hc⟩

theorem contains_of_isUnified {a b : StoreRef} (hunified : table.isUnified a b = true) :
    table.contains a = true ∧ table.contains b = true := by
  obtain ⟨root, ha, hb⟩ := table.isUnified_iff.mp hunified
  exact ⟨contains_of_resolve ha, contains_of_resolve hb⟩

/-! ## Creation -/

theorem contains_create (store : StoreRef) :
    table.create.2.contains store = (decide (store = table.create.1) || table.contains store) := by
  rw [Bool.eq_iff_iff, Bool.or_eq_true, decide_eq_true_eq, ← StoreRef.index_inj]
  simp only [contains, create, Array.size_push, decide_eq_true_eq]
  omega

theorem Chain.create {store root : StoreRef} {places : List StoreRef}
    (hchain : table.Chain store places root) : table.create.2.Chain store places root := by
  induction hchain with
  | @owned store values hslot =>
      have hbound := (Array.getElem?_eq_some_iff.mp hslot).1
      have hcreated : table.create.2.slots[store.index]? = some (.owned values) := by
        simpa [StoreTable.create, Array.getElem?_push, Nat.ne_of_lt hbound] using hslot
      exact .owned hcreated
  | merged hslot _ ih =>
      have hbound := (Array.getElem?_eq_some_iff.mp hslot).1
      refine .merged ?_ ih
      simpa [StoreTable.create, Array.getElem?_push, Nat.ne_of_lt hbound] using hslot

theorem resolve_create_new (table : StoreTable) :
    table.create.2.resolve table.create.1 = some table.create.1 := by
  have hslot : table.create.2.slots[table.create.1.index]? = some (.owned []) := by simp [create]
  exact resolve_owned hslot

theorem resolve_create_of_contains (hgrounded : table.Grounded) {store : StoreRef}
    (hcontains : table.contains store = true) :
    table.create.2.resolve store = table.resolve store := by
  obtain ⟨root, hroot⟩ := hgrounded store hcontains
  obtain ⟨places, hchain⟩ := resolve_eq_some_iff.mp hroot
  rw [hroot]
  exact resolve_eq_some_iff.mpr ⟨places, hchain.create⟩

theorem values_create_new (table : StoreTable) : table.create.2.values table.create.1 = [] := by
  have hread := values_of_resolve (table.resolve_create_new)
  have hslot : table.create.2.slots[table.create.1.index]? = some (.owned []) := by simp [create]
  exact StoreSlot.owned.inj (Option.some.inj (hread.symm.trans hslot))

theorem values_create_of_contains (hgrounded : table.Grounded) {store : StoreRef}
    (hcontains : table.contains store = true) :
    table.create.2.values store = table.values store := by
  obtain ⟨root, hroot⟩ := hgrounded store hcontains
  have hbefore := values_of_resolve hroot
  have hafter := values_of_resolve ((resolve_create_of_contains hgrounded hcontains).trans hroot)
  have hbound := Nat.ne_of_lt (Array.getElem?_eq_some_iff.mp hbefore).1
  rw [create, Array.getElem?_push, if_neg hbound, hbefore] at hafter
  exact (StoreSlot.owned.inj (Option.some.inj hafter)).symm

theorem Grounded.create (hgrounded : table.Grounded) : table.create.2.Grounded := by
  intro store hcontains
  rw [contains_create, Bool.or_eq_true, decide_eq_true_eq] at hcontains
  rcases hcontains with rfl | hcontains
  · exact ⟨_, table.resolve_create_new⟩
  · rw [resolve_create_of_contains hgrounded hcontains]
    exact hgrounded store hcontains

/-- A new store reads empty, as its handle did before. -/
theorem values_create (hgrounded : table.Grounded) (store : StoreRef) :
    table.create.2.values store = table.values store := by
  cases hcontains : table.contains store with
  | true => exact values_create_of_contains hgrounded hcontains
  | false =>
      rw [values_of_resolve_none (hgrounded.resolve_eq_none_iff.mpr hcontains)]
      by_cases hnew : store = table.create.1
      · rw [hnew, values_create_new]
      · have hunknown : table.create.2.contains store = false := by
          rw [contains_create, hcontains, decide_eq_false hnew, Bool.or_false]
        exact values_of_resolve_none (hgrounded.create.resolve_eq_none_iff.mpr hunknown)

/-! ## Unification -/

section Unify

variable {parent child parentRoot childRoot : StoreRef}

theorem unify_of_unknown
    (hunknown : table.resolve parent = none ∨ table.resolve child = none) :
    table.unify parent child = (none, table) := by
  unfold unify
  split
  next hparent hchild => simp [hparent, hchild] at hunknown
  next => rfl

theorem unify_of_not_contains (hgrounded : table.Grounded)
    (hunknown : ¬ (table.contains parent = true ∧ table.contains child = true)) :
    table.unify parent child = (none, table) := by
  apply unify_of_unknown
  rw [hgrounded.resolve_eq_none_iff, hgrounded.resolve_eq_none_iff]
  by_cases hparent : table.contains parent = true
  · exact .inr (by simpa [hparent] using hunknown)
  · exact .inl (by simpa using hparent)

theorem unify_of_same {root : StoreRef} (hparent : table.resolve parent = some root)
    (hchild : table.resolve child = some root) :
    table.unify parent child = (some root, table) := by
  simp [unify, hparent, hchild]

theorem size_unify (parent child : StoreRef) :
    (table.unify parent child).2.slots.size = table.slots.size := by
  unfold unify
  split
  · split
    · rfl
    · simp [modifyOwned]
  · rfl

theorem unify_fst (hparent : table.resolve parent = some parentRoot)
    (hchild : table.resolve child = some childRoot) :
    (table.unify parent child).1 = some parentRoot := by
  simp only [unify, hparent, hchild]
  split <;> rfl

/-- Joining two lists redirects the root of the child and extends the list of the parent. -/
theorem slots_unify (hparent : table.resolve parent = some parentRoot)
    (hchild : table.resolve child = some childRoot) (hroots : parentRoot ≠ childRoot)
    (place : Nat) :
    (table.unify parent child).2.slots[place]? =
      if place = childRoot.index then some (.merged parentRoot)
      else if place = parentRoot.index then
        some (.owned (table.values parent ++ table.values child))
      else table.slots[place]? := by
  have hparentSlot := values_of_resolve hparent
  have hchildBound := lt_size_of_resolve (resolve_root hchild)
  simp only [unify, hparent, hchild, if_neg hroots, modifyOwned,
    Array.getElem?_setIfInBounds, Array.size_modify, hchildBound, Array.getElem?_modify]
  by_cases hplace : childRoot.index = place
  · simp [hplace]
  · rw [if_neg hplace, if_neg (Ne.symm hplace)]
    by_cases hplace : parentRoot.index = place
    · simp [← hplace, hparentSlot]
    · rw [if_neg hplace, if_neg (Ne.symm hplace)]

/-- A chain that ended at the root of the child goes on to the root of the parent, and no other
chain changes. -/
theorem Chain.unify (hparent : table.resolve parent = some parentRoot)
    (hchild : table.resolve child = some childRoot) (hroots : parentRoot ≠ childRoot)
    {store root : StoreRef} {places : List StoreRef} (hchain : table.Chain store places root) :
    ∃ visited, (table.unify parent child).2.Chain store visited
      (if root = childRoot then parentRoot else root) := by
  have hslots := slots_unify hparent hchild hroots
  have hindex : ∀ {a b : StoreRef}, a ≠ b → a.index ≠ b.index := mt StoreRef.index_inj.mp
  have hend : (table.unify parent child).2.Chain parentRoot [parentRoot] parentRoot := by
    have hjoined : (table.unify parent child).2.slots[parentRoot.index]? =
        some (.owned (table.values parent ++ table.values child)) := by
      rw [hslots, if_neg (hindex hroots), if_pos rfl]
    exact .owned hjoined
  induction hchain with
  | @owned store values hslot =>
      by_cases hstore : store = childRoot
      · subst hstore
        rw [if_pos rfl]
        exact ⟨_, .merged (by rw [hslots, if_pos rfl]) hend⟩
      · rw [if_neg hstore]
        by_cases hsame : store = parentRoot
        · exact ⟨_, hsame ▸ hend⟩
        · have hkept : (table.unify parent child).2.slots[store.index]? =
              some (.owned values) := by
            rw [hslots, if_neg (hindex hstore), if_neg (hindex hsame), hslot]
          exact ⟨_, .owned hkept⟩
  | @merged store next root places hslot hrest ih =>
      -- Both roots own a list, so a place that redirects is neither of them.
      have hother : ∀ {from_ top : StoreRef}, table.resolve from_ = some top →
          store.index ≠ top.index := by
        intro from_ top hresolve hsame
        rw [hsame, values_of_resolve hresolve] at hslot
        simp at hslot
      obtain ⟨visited, hvisited⟩ := ih
      refine ⟨_, .merged ?_ hvisited⟩
      rw [hslots, if_neg (hother hchild), if_neg (hother hparent), hslot]

theorem resolve_unify_of_resolve (hparent : table.resolve parent = some parentRoot)
    (hchild : table.resolve child = some childRoot) {store root : StoreRef}
    (hresolve : table.resolve store = some root) :
    (table.unify parent child).2.resolve store =
      some (if root = childRoot then parentRoot else root) := by
  by_cases hroots : parentRoot = childRoot
  · subst hroots
    rw [unify_of_same hparent hchild, hresolve]
    split
    next hroot => rw [hroot]
    next => rfl
  · obtain ⟨places, hchain⟩ := resolve_eq_some_iff.mp hresolve
    exact resolve_eq_some_iff.mpr (hchain.unify hparent hchild hroots)

theorem Grounded.unify (hgrounded : table.Grounded) (parent child : StoreRef) :
    (table.unify parent child).2.Grounded := by
  intro store hcontains
  rw [contains_unify] at hcontains
  obtain ⟨root, hroot⟩ := hgrounded store hcontains
  cases hparent : table.resolve parent with
  | none =>
      rw [unify_of_unknown (.inl hparent)]
      exact ⟨root, hroot⟩
  | some parentRoot =>
      cases hchild : table.resolve child with
      | none =>
          rw [unify_of_unknown (.inr hchild)]
          exact ⟨root, hroot⟩
      | some childRoot => exact ⟨_, resolve_unify_of_resolve hparent hchild hroot⟩

theorem Grounded.resolve_unify_eq_none_iff (hgrounded : table.Grounded) (parent child : StoreRef)
    {store : StoreRef} :
    (table.unify parent child).2.resolve store = none ↔ table.resolve store = none := by
  rw [(hgrounded.unify parent child).resolve_eq_none_iff, contains_unify,
    hgrounded.resolve_eq_none_iff]

/-- After two lists are joined, the handles of either read both lists one after the other. -/
theorem values_unify_of_resolve (hparent : table.resolve parent = some parentRoot)
    (hchild : table.resolve child = some childRoot) (hroots : parentRoot ≠ childRoot)
    {store root : StoreRef} (hresolve : table.resolve store = some root) :
    (table.unify parent child).2.values store =
      if root = parentRoot ∨ root = childRoot then table.values parent ++ table.values child
      else table.values store := by
  have hafter := values_of_resolve (resolve_unify_of_resolve hparent hchild hresolve)
  have hbefore := values_of_resolve hresolve
  simp only [slots_unify hparent hchild hroots, StoreRef.index_inj] at hafter
  by_cases hchildRoot : root = childRoot
  · simp only [hchildRoot, if_pos, if_neg hroots] at hafter
    rw [if_pos (.inr hchildRoot)]
    exact (StoreSlot.owned.inj (Option.some.inj hafter)).symm
  · by_cases hparentRoot : root = parentRoot
    · simp only [hparentRoot, if_neg hroots, if_pos] at hafter
      rw [if_pos (.inl hparentRoot)]
      exact (StoreSlot.owned.inj (Option.some.inj hafter)).symm
    · simp only [if_neg hchildRoot, if_neg hparentRoot, hbefore] at hafter
      rw [if_neg (by simp [hchildRoot, hparentRoot])]
      exact (StoreSlot.owned.inj (Option.some.inj hafter)).symm

/-- Unification joins two lists that are not one list yet and leaves all other lists alone. -/
theorem values_unify (hgrounded : table.Grounded) (hparent : table.contains parent = true)
    (hchild : table.contains child = true) (hapart : table.isUnified parent child = false)
    (store : StoreRef) :
    (table.unify parent child).2.values store =
      if table.isUnified parent store = true ∨ table.isUnified child store = true then
        table.values parent ++ table.values child
      else table.values store := by
  obtain ⟨parentRoot, hparent⟩ := hgrounded parent hparent
  obtain ⟨childRoot, hchild⟩ := hgrounded child hchild
  have hroots : parentRoot ≠ childRoot := by
    rintro rfl
    simp [isUnified_of_resolve hparent, hchild] at hapart
  rw [isUnified_of_resolve hparent, isUnified_of_resolve hchild]
  cases hstore : table.resolve store with
  | none =>
      have hafter := (hgrounded.resolve_unify_eq_none_iff parent child).mpr hstore
      simp [values_of_resolve_none hafter, values_of_resolve_none hstore]
  | some root => simp [values_unify_of_resolve hparent hchild hroots hstore]

/-- Unification joins two classes of handles that read one list, and no others. -/
theorem isUnified_unify (hparent : table.resolve parent = some parentRoot)
    (hchild : table.resolve child = some childRoot) (hgrounded : table.Grounded)
    (a b : StoreRef) :
    (table.unify parent child).2.isUnified a b = true ↔
      table.isUnified a b = true ∨
        ((table.isUnified parent a = true ∨ table.isUnified child a = true) ∧
          (table.isUnified parent b = true ∨ table.isUnified child b = true)) := by
  have hafter : ∀ store, (table.unify parent child).2.resolve store =
      (table.resolve store).map fun root => if root = childRoot then parentRoot else root := by
    intro store
    cases hresolve : table.resolve store with
    | none => rw [Option.map_none, hgrounded.resolve_unify_eq_none_iff, hresolve]
    | some root => exact resolve_unify_of_resolve hparent hchild hresolve
  rw [isUnified_of_resolve hparent, isUnified_of_resolve hchild, isUnified_of_resolve hparent,
    isUnified_of_resolve hchild, isUnified_iff, isUnified_iff, hafter, hafter]
  cases table.resolve a <;> cases table.resolve b <;> simp only [Option.map_none,
    Option.map_some, Option.some.injEq, decide_eq_true_eq, reduceCtorEq, false_and, and_false,
    exists_false, or_self]
  grind

end Unify

end StoreTable

end CommandGrammar
