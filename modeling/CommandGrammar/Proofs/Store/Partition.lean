import CommandGrammar.Proofs.Store.Forest

/-! # Stores as a partition of their handles

What a table of stores shows to its callers needs no redirections to be said. The allocated
handles are divided into classes, each with a list and with one handle that stands for it.
Creating a store adds a class, recording and clearing act on the list of a class, and unifying
joins two classes and appends the list of the second to that of the first. The table gives the
same answers as this partition.
-/

namespace CommandGrammar

/-- A class of handles that read the same list. -/
structure LogicalStore where
  representative : StoreRef
  members : List StoreRef
  values : List String
deriving DecidableEq, Repr

/-- All classes, and how many handles were given out. -/
structure Partition where
  allocated : Nat := 0
  stores : List LogicalStore := []
deriving DecidableEq, Repr

namespace Partition

/-- The partition without handles. -/
def empty : Partition := {}

/-- The class of a handle, if the handle was given out. -/
def logical? (partition : Partition) (store : StoreRef) : Option LogicalStore :=
  partition.stores.find? (·.members.contains store)

def contains (partition : Partition) (store : StoreRef) : Bool :=
  (partition.logical? store).isSome

def resolve (partition : Partition) (store : StoreRef) : Option StoreRef :=
  (partition.logical? store).map (·.representative)

def values (partition : Partition) (store : StoreRef) : List String :=
  ((partition.logical? store).map (·.values)).getD []

/-- Whether one class holds both handles. -/
def isUnified (partition : Partition) (a b : StoreRef) : Bool :=
  partition.stores.any fun logical => logical.members.contains a && logical.members.contains b

/-- Adds a class of one new handle and an empty list. -/
def create (partition : Partition) : StoreRef × Partition :=
  let store : StoreRef := ⟨partition.allocated⟩
  (store,
    { allocated := partition.allocated + 1
      stores := ⟨store, [store], []⟩ :: partition.stores })

/-- Changes the list of the class of a handle. -/
def modify (partition : Partition) (store : StoreRef) (change : List String → List String) :
    Partition :=
  { partition with
    stores := partition.stores.map fun logical =>
      if logical.members.contains store then { logical with values := change logical.values }
      else logical }

def push (partition : Partition) (store : StoreRef) (token : String) : Partition :=
  partition.modify store (· ++ [token])

def clear (partition : Partition) (store : StoreRef) : Partition :=
  partition.modify store fun _ => []

/-- The class of all members of two classes, which reads both lists one after the other. -/
def join (first second : LogicalStore) : LogicalStore :=
  { first with
    members := first.members ++ second.members
    values := first.values ++ second.values }

/-- Joins the class of `child` to the class of `parent` and returns what stands for the result.
Nothing happens if a handle was not given out or if one class holds both. -/
def unify (partition : Partition) (parent child : StoreRef) : Option StoreRef × Partition :=
  match partition.logical? parent, partition.logical? child with
  | some first, some second =>
    if first.members.contains child then (some first.representative, partition)
    else
      let others := partition.stores.filter fun logical =>
        !logical.members.contains parent && !logical.members.contains child
      (some first.representative, { partition with stores := join first second :: others })
  | _, _ => (none, partition)

/-- The handles given out are divided among the classes, and a member stands for each class. -/
structure Valid (partition : Partition) : Prop where
  disjoint : ∀ first ∈ partition.stores, ∀ second ∈ partition.stores, ∀ store,
    store ∈ first.members → store ∈ second.members → first = second
  covers : ∀ store, (∃ logical ∈ partition.stores, store ∈ logical.members) ↔
    store.index < partition.allocated
  representative_mem : ∀ logical ∈ partition.stores, logical.representative ∈ logical.members

theorem Valid.logical?_eq_some_iff {partition : Partition} (hvalid : partition.Valid)
    {store : StoreRef} {logical : LogicalStore} :
    partition.logical? store = some logical ↔
      logical ∈ partition.stores ∧ store ∈ logical.members := by
  constructor
  · intro hfind
    have hmember := List.find?_some hfind
    exact ⟨List.mem_of_find?_eq_some hfind, by simpa using hmember⟩
  · rintro ⟨hlogical, hmember⟩
    cases hfind : partition.logical? store with
    | none =>
        have hnone := List.find?_eq_none.mp hfind logical hlogical
        simp [hmember] at hnone
    | some found =>
        have hfound := List.find?_some hfind
        have hsame := hvalid.disjoint found (List.mem_of_find?_eq_some hfind) logical hlogical
          store (by simpa using hfound) hmember
        rw [hsame]

theorem Valid.logical?_eq_none_iff {partition : Partition} (hvalid : partition.Valid)
    {store : StoreRef} :
    partition.logical? store = none ↔ ¬ store.index < partition.allocated := by
  rw [← hvalid.covers, logical?, List.find?_eq_none]
  simp

theorem Valid.exists_logical {partition : Partition} (hvalid : partition.Valid)
    {store : StoreRef} (hstore : store.index < partition.allocated) :
    ∃ logical, partition.logical? store = some logical ∧
      logical ∈ partition.stores ∧ store ∈ logical.members := by
  obtain ⟨logical, hlogical, hmember⟩ := (hvalid.covers store).mpr hstore
  exact ⟨logical, hvalid.logical?_eq_some_iff.mpr ⟨hlogical, hmember⟩, hlogical, hmember⟩

theorem Valid.eq_of_representative_eq {partition : Partition} (hvalid : partition.Valid)
    {first second : LogicalStore} (hfirst : first ∈ partition.stores)
    (hsecond : second ∈ partition.stores) (hsame : first.representative = second.representative) :
    first = second :=
  hvalid.disjoint first hfirst second hsecond first.representative
    (hvalid.representative_mem first hfirst) (hsame ▸ hvalid.representative_mem second hsecond)

theorem Valid.create {partition : Partition} (hvalid : partition.Valid) :
    partition.create.2.Valid := by
  have hstale : ∀ logical ∈ partition.stores, partition.create.1 ∉ logical.members :=
    fun logical hlogical hmember =>
      Nat.lt_irrefl _ ((hvalid.covers _).mp ⟨logical, hlogical, hmember⟩)
  refine ⟨?_, ?_, ?_⟩
  · intro first hfirst second hsecond store hmember hother
    rcases List.mem_cons.mp hfirst with rfl | hfirst
    · obtain rfl := List.mem_singleton.mp hmember
      rcases List.mem_cons.mp hsecond with rfl | hsecond
      · rfl
      · exact absurd hother (hstale second hsecond)
    · rcases List.mem_cons.mp hsecond with rfl | hsecond
      · obtain rfl := List.mem_singleton.mp hother
        exact absurd hmember (hstale first hfirst)
      · exact hvalid.disjoint first hfirst second hsecond store hmember hother
  · intro store
    have hcovers := hvalid.covers store
    have hself : store = ⟨partition.allocated⟩ ↔ store.index = partition.allocated :=
      StoreRef.index_inj.symm
    simp only [Partition.create, List.exists_mem_cons_iff, List.mem_singleton, hcovers, hself]
    omega
  · intro logical hlogical
    rcases List.mem_cons.mp hlogical with rfl | hlogical
    · exact List.mem_singleton_self _
    · exact hvalid.representative_mem logical hlogical

/-! ## Joining two classes -/

/-- Two classes of a valid partition, each with one of its members, that are not the same. -/
structure Apart (partition : Partition) (parent child : StoreRef) (first second : LogicalStore) :
    Prop where
  valid : partition.Valid
  first_mem : first ∈ partition.stores
  parent_mem : parent ∈ first.members
  second_mem : second ∈ partition.stores
  child_mem : child ∈ second.members
  child_not_mem : child ∉ first.members

/-- The classes that hold neither handle. -/
def others (partition : Partition) (parent child : StoreRef) : List LogicalStore :=
  partition.stores.filter fun logical =>
    !logical.members.contains parent && !logical.members.contains child

/-- The partition with two classes joined. -/
def joined (partition : Partition) (parent child : StoreRef) (first second : LogicalStore) :
    Partition :=
  { partition with stores := join first second :: partition.others parent child }

namespace Apart

variable {partition : Partition} {parent child : StoreRef} {first second : LogicalStore}

theorem representative_ne (hapart : partition.Apart parent child first second) :
    first.representative ≠ second.representative := by
  intro hsame
  have hone := hapart.valid.eq_of_representative_eq hapart.first_mem hapart.second_mem hsame
  exact hapart.child_not_mem (hone ▸ hapart.child_mem)

/-- The classes that stay are those other than the two. -/
theorem mem_others_iff (hapart : partition.Apart parent child first second)
    {logical : LogicalStore} : logical ∈ partition.others parent child ↔
      logical ∈ partition.stores ∧ logical ≠ first ∧ logical ≠ second := by
  simp only [others, List.mem_filter, Bool.and_eq_true, Bool.not_eq_true', List.contains_eq_mem,
    decide_eq_false_iff_not]
  refine and_congr_right fun hlogical => and_congr (not_congr ?_) (not_congr ?_)
  · exact ⟨fun hmember => hapart.valid.disjoint logical hlogical first hapart.first_mem _ hmember
      hapart.parent_mem, fun hsame => hsame ▸ hapart.parent_mem⟩
  · exact ⟨fun hmember => hapart.valid.disjoint logical hlogical second hapart.second_mem _
      hmember hapart.child_mem, fun hsame => hsame ▸ hapart.child_mem⟩

theorem not_mem_join (hapart : partition.Apart parent child first second)
    {logical : LogicalStore} (hlogical : logical ∈ partition.others parent child)
    {store : StoreRef} (hmember : store ∈ logical.members) :
    store ∉ (join first second).members := by
  obtain ⟨hlogical, hnotFirst, hnotSecond⟩ := hapart.mem_others_iff.mp hlogical
  intro hjoined
  rcases List.mem_append.mp hjoined with hother | hother
  · exact hnotFirst (hapart.valid.disjoint logical hlogical first hapart.first_mem store hmember
      hother)
  · exact hnotSecond (hapart.valid.disjoint logical hlogical second hapart.second_mem store
      hmember hother)

theorem covers (hapart : partition.Apart parent child first second) (store : StoreRef) :
    (∃ logical ∈ (partition.joined parent child first second).stores, store ∈ logical.members) ↔
      ∃ logical ∈ partition.stores, store ∈ logical.members := by
  constructor
  · rintro ⟨logical, hlogical, hmember⟩
    rcases List.mem_cons.mp hlogical with rfl | hlogical
    · rcases List.mem_append.mp hmember with hmember | hmember
      · exact ⟨first, hapart.first_mem, hmember⟩
      · exact ⟨second, hapart.second_mem, hmember⟩
    · exact ⟨logical, (hapart.mem_others_iff.mp hlogical).1, hmember⟩
  · rintro ⟨logical, hlogical, hmember⟩
    by_cases hone : logical = first
    · exact ⟨_, List.mem_cons_self, List.mem_append_left _ (hone ▸ hmember)⟩
    · by_cases htwo : logical = second
      · exact ⟨_, List.mem_cons_self, List.mem_append_right _ (htwo ▸ hmember)⟩
      · have hstays := hapart.mem_others_iff.mpr ⟨hlogical, hone, htwo⟩
        exact ⟨logical, List.mem_cons_of_mem _ hstays, hmember⟩

theorem valid_joined (hapart : partition.Apart parent child first second) :
    (partition.joined parent child first second).Valid := by
  have hvalid := hapart.valid
  refine ⟨?_, fun store => (hapart.covers store).trans (hvalid.covers store), ?_⟩
  · intro left hleft right hright store hmember hother
    rcases List.mem_cons.mp hleft with rfl | hleft
    · rcases List.mem_cons.mp hright with rfl | hright
      · rfl
      · exact absurd hmember (hapart.not_mem_join hright hother)
    · rcases List.mem_cons.mp hright with rfl | hright
      · exact absurd hother (hapart.not_mem_join hleft hmember)
      · exact hvalid.disjoint left (hapart.mem_others_iff.mp hleft).1 right
          (hapart.mem_others_iff.mp hright).1 store hmember hother
  · intro logical hlogical
    rcases List.mem_cons.mp hlogical with rfl | hlogical
    · exact List.mem_append_left _ (hvalid.representative_mem first hapart.first_mem)
    · exact hvalid.representative_mem logical (hapart.mem_others_iff.mp hlogical).1

end Apart

/-! ## The partition of a table -/

/-- Every member of every class resolves to what stands for the class and reads its list. -/
structure Represents (partition : Partition) (table : StoreTable) : Prop where
  valid : partition.Valid
  allocated_eq : partition.allocated = table.slots.size
  resolve_eq : ∀ logical ∈ partition.stores, ∀ store ∈ logical.members,
    table.resolve store = some logical.representative
  values_eq : ∀ logical ∈ partition.stores, ∀ store ∈ logical.members,
    table.values store = logical.values

namespace Represents

variable {partition : Partition} {table : StoreTable}

theorem empty : Partition.empty.Represents StoreTable.empty := by
  refine ⟨⟨?_, ?_, ?_⟩, rfl, ?_, ?_⟩ <;> simp [Partition.empty]

theorem contains_iff (hrepresents : partition.Represents table) (store : StoreRef) :
    table.contains store = true ↔ store.index < partition.allocated := by
  rw [hrepresents.allocated_eq, StoreTable.contains, decide_eq_true_eq]

theorem grounded (hrepresents : partition.Represents table) : table.Grounded := by
  intro store hcontains
  obtain ⟨logical, _, hlogical, hmember⟩ :=
    hrepresents.valid.exists_logical ((hrepresents.contains_iff store).mp hcontains)
  exact ⟨_, hrepresents.resolve_eq logical hlogical store hmember⟩

theorem contains_eq (hrepresents : partition.Represents table) (store : StoreRef) :
    table.contains store = partition.contains store := by
  rw [Bool.eq_iff_iff, hrepresents.contains_iff, contains, Option.isSome_iff_ne_none, Ne,
    hrepresents.valid.logical?_eq_none_iff, Decidable.not_not]

theorem resolve_values_eq (hrepresents : partition.Represents table) (store : StoreRef) :
    table.resolve store = partition.resolve store ∧
      table.values store = partition.values store := by
  unfold resolve values
  by_cases hstore : store.index < partition.allocated
  · obtain ⟨logical, hfind, hlogical, hmember⟩ := hrepresents.valid.exists_logical hstore
    rw [hfind]
    exact ⟨hrepresents.resolve_eq logical hlogical store hmember,
      hrepresents.values_eq logical hlogical store hmember⟩
  · have hresolve : table.resolve store = none := by
      rw [hrepresents.grounded.resolve_eq_none_iff, Bool.eq_false_iff, Ne,
        hrepresents.contains_iff]
      exact hstore
    rw [hrepresents.valid.logical?_eq_none_iff.mpr hstore]
    exact ⟨hresolve, StoreTable.values_of_resolve_none hresolve⟩

/-- A member of a class reads the same list as the other members, and as no other handle. -/
theorem isUnified_eq_of_mem (hrepresents : partition.Represents table) {logical : LogicalStore}
    (hlogical : logical ∈ partition.stores) {a : StoreRef} (ha : a ∈ logical.members)
    (b : StoreRef) : table.isUnified b a = logical.members.contains b := by
  rw [Bool.eq_iff_iff, StoreTable.isUnified_iff, List.contains_iff_mem]
  have hresolve := hrepresents.resolve_eq logical hlogical
  constructor
  · rintro ⟨root, hb, hroot⟩
    obtain rfl : logical.representative = root := by simpa [hresolve a ha] using hroot
    -- What stands for both classes is a member of both, so they are one class.
    have hcontains := StoreTable.contains_of_resolve hb
    obtain ⟨other, _, hother, hmember⟩ :=
      hrepresents.valid.exists_logical ((hrepresents.contains_iff b).mp hcontains)
    have hrepresentative : other.representative = logical.representative :=
      Option.some.inj ((hrepresents.resolve_eq other hother b hmember).symm.trans hb)
    have hsame := hrepresents.valid.eq_of_representative_eq hother hlogical hrepresentative
    exact hsame ▸ hmember
  · intro hb
    exact ⟨logical.representative, hresolve b hb, hresolve a ha⟩

theorem isUnified_eq (hrepresents : partition.Represents table) (a b : StoreRef) :
    table.isUnified a b = partition.isUnified a b := by
  rw [Bool.eq_iff_iff, isUnified, List.any_eq_true]
  simp only [Bool.and_eq_true]
  constructor
  · intro hunified
    obtain ⟨_, hb⟩ := StoreTable.contains_of_isUnified hunified
    obtain ⟨logical, _, hlogical, hmember⟩ :=
      hrepresents.valid.exists_logical ((hrepresents.contains_iff b).mp hb)
    rw [hrepresents.isUnified_eq_of_mem hlogical hmember] at hunified
    exact ⟨logical, hlogical, hunified, List.contains_iff_mem.mpr hmember⟩
  · rintro ⟨logical, hlogical, ha, hb⟩
    rw [hrepresents.isUnified_eq_of_mem hlogical (List.contains_iff_mem.mp hb)]
    exact ha

/-! ## The operations agree -/

theorem create (hrepresents : partition.Represents table) :
    partition.create.1 = table.create.1 ∧ partition.create.2.Represents table.create.2 := by
  have hnew : partition.create.1 = table.create.1 :=
    congrArg StoreRef.mk hrepresents.allocated_eq
  have hknown : ∀ logical ∈ partition.stores, ∀ store ∈ logical.members,
      table.contains store = true := fun logical hlogical store hmember =>
    (hrepresents.contains_iff store).mpr
      ((hrepresents.valid.covers store).mp ⟨logical, hlogical, hmember⟩)
  refine ⟨hnew, hrepresents.valid.create, ?_, ?_, ?_⟩
  · simp [Partition.create, StoreTable.create, hrepresents.allocated_eq]
  · intro logical hlogical store hmember
    rcases List.mem_cons.mp hlogical with rfl | hlogical
    · obtain rfl := List.mem_singleton.mp hmember
      have hresolve := table.resolve_create_new
      rw [← hnew] at hresolve
      exact hresolve
    · rw [StoreTable.resolve_create_of_contains hrepresents.grounded
        (hknown logical hlogical store hmember)]
      exact hrepresents.resolve_eq logical hlogical store hmember
  · intro logical hlogical store hmember
    rcases List.mem_cons.mp hlogical with rfl | hlogical
    · obtain rfl := List.mem_singleton.mp hmember
      have hempty := table.values_create_new
      rw [← hnew] at hempty
      exact hempty
    · rw [StoreTable.values_create_of_contains hrepresents.grounded
        (hknown logical hlogical store hmember)]
      exact hrepresents.values_eq logical hlogical store hmember

/-- A table of the same shape whose lists changed in the class of one handle. -/
theorem modify (hrepresents : partition.Represents table) {after : StoreTable}
    (store : StoreRef) (change : List String → List String) (hshape : after.SameShape table)
    (hvalues : ∀ other, after.values other =
      if table.isUnified store other then change (table.values other) else table.values other) :
    (partition.modify store change).Represents after := by
  -- Only lists change, so every class is an old class with the same members.
  have hold : ∀ logical ∈ (partition.modify store change).stores,
      ∃ before ∈ partition.stores, logical.members = before.members ∧
        logical.representative = before.representative ∧
        logical = if before.members.contains store then
          { before with values := change before.values } else before := by
    intro logical hlogical
    obtain ⟨before, hbefore, rfl⟩ := List.mem_map.mp hlogical
    refine ⟨before, hbefore, ?_, ?_, rfl⟩ <;> split <;> rfl
  refine ⟨⟨?_, ?_, ?_⟩, ?_, ?_, ?_⟩
  · intro first hfirst second hsecond member hmember hother
    obtain ⟨before, hbefore, hmembers, _, hfirst⟩ := hold first hfirst
    obtain ⟨beforeSecond, hbeforeSecond, hmembersSecond, _, hsecond⟩ := hold second hsecond
    rw [hmembers] at hmember
    rw [hmembersSecond] at hother
    rw [hfirst, hsecond, hrepresents.valid.disjoint before hbefore beforeSecond hbeforeSecond
      member hmember hother]
  · intro member
    refine Iff.trans ?_ (hrepresents.valid.covers member)
    constructor
    · rintro ⟨logical, hlogical, hmember⟩
      obtain ⟨before, hbefore, hmembers, _⟩ := hold logical hlogical
      exact ⟨before, hbefore, hmembers ▸ hmember⟩
    · rintro ⟨before, hbefore, hmember⟩
      refine ⟨_, List.mem_map_of_mem hbefore, ?_⟩
      split <;> exact hmember
  · intro logical hlogical
    obtain ⟨before, hbefore, hmembers, hrepresentative, _⟩ := hold logical hlogical
    rw [hmembers, hrepresentative]
    exact hrepresents.valid.representative_mem before hbefore
  · exact hrepresents.allocated_eq.trans hshape.size_eq.symm
  · intro logical hlogical member hmember
    obtain ⟨before, hbefore, hmembers, hrepresentative, _⟩ := hold logical hlogical
    rw [hshape.resolve_eq, hrepresentative]
    exact hrepresents.resolve_eq before hbefore member (hmembers ▸ hmember)
  · intro logical hlogical member hmember
    obtain ⟨before, hbefore, hmembers, _, hlogical⟩ := hold logical hlogical
    rw [hmembers] at hmember
    rw [hvalues, hrepresents.isUnified_eq_of_mem hbefore hmember,
      hrepresents.values_eq before hbefore member hmember, hlogical]
    split <;> rfl

theorem push (hrepresents : partition.Represents table) (store : StoreRef) (token : String) :
    (partition.push store token).Represents (table.push store token).1 :=
  hrepresents.modify store _ (table.push_sameShape store token) (table.values_push store token)

theorem clear (hrepresents : partition.Represents table) (store : StoreRef) :
    (partition.clear store).Represents (table.clear store) :=
  hrepresents.modify store _ (table.clear_sameShape store) (table.values_clear store)

/-- Two classes without common members may be joined. -/
theorem join (hrepresents : partition.Represents table) {parent child : StoreRef}
    {first second : LogicalStore} (hapart : partition.Apart parent child first second) :
    (partition.joined parent child first second).Represents (table.unify parent child).2 := by
  have hvalid := hapart.valid
  have hfirst := hapart.first_mem
  have hsecond := hapart.second_mem
  have hparentRoot := hrepresents.resolve_eq first hfirst parent hapart.parent_mem
  have hchildRoot := hrepresents.resolve_eq second hsecond child hapart.child_mem
  refine ⟨hapart.valid_joined, ?_, ?_, ?_⟩
  · rw [StoreTable.size_unify]
    exact hrepresents.allocated_eq
  · intro logical hlogical store hmember
    rcases List.mem_cons.mp hlogical with rfl | hlogical
    · rcases List.mem_append.mp hmember with hmember | hmember
      · rw [StoreTable.resolve_unify_of_resolve hparentRoot hchildRoot
          (hrepresents.resolve_eq first hfirst store hmember), if_neg hapart.representative_ne]
        rfl
      · rw [StoreTable.resolve_unify_of_resolve hparentRoot hchildRoot
          (hrepresents.resolve_eq second hsecond store hmember), if_pos rfl]
        rfl
    · obtain ⟨hlogical, _, hnotSecond⟩ := hapart.mem_others_iff.mp hlogical
      -- Only what resolved to the root of the second class is redirected.
      rw [StoreTable.resolve_unify_of_resolve hparentRoot hchildRoot
        (hrepresents.resolve_eq logical hlogical store hmember), if_neg]
      exact fun hsame => hnotSecond (hvalid.eq_of_representative_eq hlogical hsecond hsame)
  · intro logical hlogical store hmember
    have hvalues := fun {root : StoreRef} (hroot : table.resolve store = some root) =>
      StoreTable.values_unify_of_resolve hparentRoot hchildRoot hapart.representative_ne hroot
    have hjoined : table.values parent ++ table.values child = first.values ++ second.values := by
      rw [hrepresents.values_eq first hfirst parent hapart.parent_mem,
        hrepresents.values_eq second hsecond child hapart.child_mem]
    rcases List.mem_cons.mp hlogical with rfl | hlogical
    · rcases List.mem_append.mp hmember with hmember | hmember
      · rw [hvalues (hrepresents.resolve_eq first hfirst store hmember), if_pos (.inl rfl)]
        exact hjoined
      · rw [hvalues (hrepresents.resolve_eq second hsecond store hmember), if_pos (.inr rfl)]
        exact hjoined
    · obtain ⟨hlogical, hnotFirst, hnotSecond⟩ := hapart.mem_others_iff.mp hlogical
      rw [hvalues (hrepresents.resolve_eq logical hlogical store hmember), if_neg]
      · exact hrepresents.values_eq logical hlogical store hmember
      · rintro (hsame | hsame)
        · exact hnotFirst (hvalid.eq_of_representative_eq hlogical hfirst hsame)
        · exact hnotSecond (hvalid.eq_of_representative_eq hlogical hsecond hsame)

theorem unify (hrepresents : partition.Represents table) (parent child : StoreRef) :
    (partition.unify parent child).1 = (table.unify parent child).1 ∧
      (partition.unify parent child).2.Represents (table.unify parent child).2 := by
  have hvalid := hrepresents.valid
  have hresolve := fun store => (hrepresents.resolve_values_eq store).1
  unfold Partition.unify
  split
  next first second hfirst hsecond =>
    obtain ⟨hfirst, hparent⟩ := hvalid.logical?_eq_some_iff.mp hfirst
    obtain ⟨hsecond, hchild⟩ := hvalid.logical?_eq_some_iff.mp hsecond
    have hparentRoot := hrepresents.resolve_eq first hfirst parent hparent
    have hchildRoot := hrepresents.resolve_eq second hsecond child hchild
    split
    next hsame =>
      have hchildFirst := hrepresents.resolve_eq first hfirst child (by simpa using hsame)
      rw [StoreTable.unify_of_same hparentRoot hchildFirst]
      exact ⟨rfl, hrepresents⟩
    next hapart =>
      refine ⟨(StoreTable.unify_fst hparentRoot hchildRoot).symm, ?_⟩
      exact hrepresents.join ⟨hvalid, hfirst, hparent, hsecond, hchild, by simpa using hapart⟩
  next hunknown =>
    have hnone : table.resolve parent = none ∨ table.resolve child = none := by
      rw [hresolve, hresolve, resolve, resolve, Option.map_eq_none_iff, Option.map_eq_none_iff]
      cases hparent : partition.logical? parent with
      | none => exact .inl rfl
      | some first =>
          cases hchild : partition.logical? child with
          | none => exact .inr rfl
          | some second => exact absurd hchild (hunknown first second hparent)
    rw [StoreTable.unify_of_unknown hnone]
    exact ⟨rfl, hrepresents⟩

end Represents

end Partition

end CommandGrammar
