import CommandGrammar.Proofs.Store.Partition
import Mathlib.Data.List.Perm.Basic
import Mathlib.Logic.Relation

/-! # Sequences of calls on the stores

Whatever is called on a table of stores, with whatever handles, the table answers as the partition
of its handles does. Two consequences need no partition to be said: which handles read one list is
the equivalence that the unified pairs generate, and a list holds the tokens that were recorded in
its class and not cleared since, each once.
-/

namespace CommandGrammar

/-- A call on the stores. The handles need not have been given out. -/
inductive StoreCall where
  | create
  | push (store : StoreRef) (token : String)
  | clear (store : StoreRef)
  | unify (parent child : StoreRef)
deriving DecidableEq, Repr

/-- What a call returns. -/
inductive StoreReply where
  | created (store : StoreRef)
  | done
  | surviving (store : Option StoreRef)
deriving DecidableEq, Repr

namespace StoreTable

def call (table : StoreTable) : StoreCall → StoreReply × StoreTable
  | .create => (.created table.create.1, table.create.2)
  | .push store token => (.done, (table.push store token).1)
  | .clear store => (.done, table.clear store)
  | .unify parent child =>
    (.surviving (table.unify parent child).1, (table.unify parent child).2)

/-- The replies to a sequence of calls, and the table behind them. -/
def callAll (table : StoreTable) : List StoreCall → List StoreReply × StoreTable
  | [] => ([], table)
  | next :: rest =>
    let (reply, after) := table.call next
    let (replies, final) := after.callAll rest
    (reply :: replies, final)

end StoreTable

namespace Partition

def call (partition : Partition) : StoreCall → StoreReply × Partition
  | .create => (.created partition.create.1, partition.create.2)
  | .push store token => (.done, partition.push store token)
  | .clear store => (.done, partition.clear store)
  | .unify parent child =>
    (.surviving (partition.unify parent child).1, (partition.unify parent child).2)

/-- The replies to a sequence of calls, and the partition behind them. -/
def callAll (partition : Partition) : List StoreCall → List StoreReply × Partition
  | [] => ([], partition)
  | next :: rest =>
    let (reply, after) := partition.call next
    let (replies, final) := after.callAll rest
    (reply :: replies, final)

variable {partition : Partition} {table : StoreTable}

theorem Represents.call (hrepresents : partition.Represents table) (next : StoreCall) :
    (partition.call next).1 = (table.call next).1 ∧
      (partition.call next).2.Represents (table.call next).2 := by
  cases next with
  | create =>
      obtain ⟨hreply, hafter⟩ := hrepresents.create
      exact ⟨congrArg StoreReply.created hreply, hafter⟩
  | push store token => exact ⟨rfl, hrepresents.push store token⟩
  | clear store => exact ⟨rfl, hrepresents.clear store⟩
  | unify parent child =>
      obtain ⟨hreply, hafter⟩ := hrepresents.unify parent child
      exact ⟨congrArg StoreReply.surviving hreply, hafter⟩

theorem Represents.callAll (hrepresents : partition.Represents table) (calls : List StoreCall) :
    (partition.callAll calls).1 = (table.callAll calls).1 ∧
      (partition.callAll calls).2.Represents (table.callAll calls).2 := by
  induction calls generalizing partition table with
  | nil => exact ⟨rfl, hrepresents⟩
  | cons next rest ih =>
      obtain ⟨hreply, hafter⟩ := hrepresents.call next
      obtain ⟨hreplies, hfinal⟩ := ih hafter
      exact ⟨congrArg₂ List.cons hreply hreplies, hfinal⟩

end Partition

namespace StoreTable

variable {table : StoreTable}

theorem Grounded.call (hgrounded : table.Grounded) (next : StoreCall) :
    (table.call next).2.Grounded := by
  cases next with
  | create => exact hgrounded.create
  | push store token => exact hgrounded.of_sameShape (table.push_sameShape store token)
  | clear store => exact hgrounded.of_sameShape (table.clear_sameShape store)
  | unify parent child => exact hgrounded.unify parent child

/-! ## Which handles read one list -/

/-- The pairs that a sequence of calls unifies when so many handles were given out before. A pair
with a handle that was not given out yet does not count. -/
def unifiedPairs : Nat → List StoreCall → List (StoreRef × StoreRef)
  | _, [] => []
  | allocated, .create :: rest => unifiedPairs (allocated + 1) rest
  | allocated, .unify parent child :: rest =>
    if parent.index < allocated ∧ child.index < allocated then
      (parent, child) :: unifiedPairs allocated rest
    else unifiedPairs allocated rest
  | allocated, _ :: rest => unifiedPairs allocated rest

/-- The pairs of one call. -/
def pairsOf (table : StoreTable) : StoreCall → List (StoreRef × StoreRef)
  | .unify parent child =>
    if table.contains parent = true ∧ table.contains child = true then [(parent, child)] else []
  | _ => []

theorem unifiedPairs_cons (next : StoreCall) (rest : List StoreCall) :
    unifiedPairs table.slots.size (next :: rest) =
      table.pairsOf next ++ unifiedPairs (table.call next).2.slots.size rest := by
  cases next with
  | create => simp [unifiedPairs, pairsOf, call, StoreTable.create]
  | push store token =>
      simp [unifiedPairs, pairsOf, call, (table.push_sameShape store token).size_eq]
  | clear store => simp [unifiedPairs, pairsOf, call, (table.clear_sameShape store).size_eq]
  | unify parent child =>
      simp only [unifiedPairs, pairsOf, call, size_unify, contains, decide_eq_true_eq]
      split <;> rfl

/-- The least equivalence in which handles of one list and the given pairs are related. -/
def Joined (table : StoreTable) (pairs : List (StoreRef × StoreRef)) : StoreRef → StoreRef → Prop :=
  Relation.EqvGen fun a b => table.isUnified a b = true ∨ (a, b) ∈ pairs

/-- Handles that read one list are an equivalence by themselves. -/
theorem joined_nil_iff {a b : StoreRef} :
    table.Joined [] a b ↔ table.isUnified a b = true ∨ a = b := by
  constructor
  · intro hjoined
    induction hjoined with
    | rel a b hrelated => exact .inl (by simpa using hrelated)
    | refl a => exact .inr rfl
    | symm a b _ ih => exact ih.imp isUnified_symm Eq.symm
    | trans a b c _ _ ihFirst ihSecond =>
        rcases ihFirst with hfirst | rfl
        · rcases ihSecond with hsecond | rfl
          · exact .inl (isUnified_trans hfirst hsecond)
          · exact .inl hfirst
        · exact ihSecond
  · rintro (hunified | rfl)
    · exact .rel _ _ (.inl hunified)
    · exact .refl _

/-- A new handle reads its list alone. -/
theorem isUnified_create (hgrounded : table.Grounded) {a b : StoreRef}
    (hunified : table.create.2.isUnified a b = true) : table.isUnified a b = true ∨ a = b := by
  obtain ⟨ha, hb⟩ := contains_of_isUnified hunified
  obtain ⟨root, hrootA, hrootB⟩ := (isUnified_iff _).mp hunified
  simp only [contains_create, Bool.or_eq_true, decide_eq_true_eq] at ha hb
  have hstale : ∀ {store : StoreRef}, table.resolve store ≠ some table.create.1 :=
    fun hresolve => Nat.lt_irrefl _ (lt_size_of_resolve (resolve_root hresolve))
  rcases ha with rfl | ha
  · rcases hb with rfl | hb
    · exact .inr rfl
    · rw [resolve_create_new] at hrootA
      rw [resolve_create_of_contains hgrounded hb] at hrootB
      exact absurd (hrootB.trans hrootA.symm) hstale
  · rw [resolve_create_of_contains hgrounded ha] at hrootA
    rcases hb with rfl | hb
    · rw [resolve_create_new] at hrootB
      exact absurd (hrootA.trans hrootB.symm) hstale
    · rw [resolve_create_of_contains hgrounded hb] at hrootB
      exact .inl ((isUnified_iff _).mpr ⟨root, hrootA, hrootB⟩)

theorem isUnified_create_iff (hgrounded : table.Grounded) {a b : StoreRef} :
    table.create.2.isUnified a b = true ↔
      table.isUnified a b = true ∨ a = b ∧ a = table.create.1 := by
  constructor
  · intro hunified
    rcases isUnified_create hgrounded hunified with hold | rfl
    · exact .inl hold
    · have hcontains := (contains_of_isUnified hunified).1
      rw [contains_create, Bool.or_eq_true, decide_eq_true_eq] at hcontains
      exact hcontains.symm.imp hgrounded.isUnified_self fun hnew => ⟨rfl, hnew⟩
  · rintro (hold | ⟨rfl, rfl⟩)
    · obtain ⟨ha, hb⟩ := contains_of_isUnified hold
      obtain ⟨root, hrootA, hrootB⟩ := (isUnified_iff _).mp hold
      refine (isUnified_iff _).mpr ⟨root, ?_, ?_⟩
      · rw [resolve_create_of_contains hgrounded ha, hrootA]
      · rw [resolve_create_of_contains hgrounded hb, hrootB]
    · exact (isUnified_iff _).mpr ⟨_, table.resolve_create_new, table.resolve_create_new⟩

/-- Unifying a pair joins the classes of its handles. -/
theorem joined_of_isUnified_unify (hgrounded : table.Grounded)
    {parent child parentRoot childRoot a b : StoreRef}
    (hparent : table.resolve parent = some parentRoot)
    (hchild : table.resolve child = some childRoot)
    (hunified : (table.unify parent child).2.isUnified a b = true) :
    table.Joined [(parent, child)] a b := by
  have hpair : table.Joined [(parent, child)] parent child := .rel _ _ (.inr (by simp))
  have hclass : ∀ store, table.isUnified parent store = true ∨
      table.isUnified child store = true → table.Joined [(parent, child)] parent store := by
    rintro store (hstore | hstore)
    · exact .rel _ _ (.inl hstore)
    · exact hpair.trans _ _ _ (.rel _ _ (.inl hstore))
  rw [isUnified_unify hparent hchild hgrounded] at hunified
  rcases hunified with hunified | ⟨ha, hb⟩
  · exact .rel _ _ (.inl hunified)
  · exact (hclass a ha).symm.trans _ _ _ (hclass b hb)

/-- After a call, handles read one list if they did so before or if the call unified their
lists. -/
theorem isUnified_call (hgrounded : table.Grounded) (next : StoreCall) {a b : StoreRef}
    (hunified : (table.call next).2.isUnified a b = true) :
    table.Joined (table.pairsOf next) a b := by
  cases next with
  | create => exact joined_nil_iff.mpr (isUnified_create hgrounded hunified)
  | push store token =>
      rw [call, (table.push_sameShape store token).isUnified_eq] at hunified
      exact .rel _ _ (.inl hunified)
  | clear store =>
      rw [call, (table.clear_sameShape store).isUnified_eq] at hunified
      exact .rel _ _ (.inl hunified)
  | unify parent child =>
      by_cases hknown : table.contains parent = true ∧ table.contains child = true
      · obtain ⟨parentRoot, hparent⟩ := hgrounded parent hknown.1
        obtain ⟨childRoot, hchild⟩ := hgrounded child hknown.2
        rw [pairsOf, if_pos hknown]
        exact joined_of_isUnified_unify hgrounded hparent hchild hunified
      · rw [call, unify_of_not_contains hgrounded hknown] at hunified
        exact .rel _ _ (.inl hunified)

/-- No call separates handles that read one list, and a call that unifies a pair makes its two
handles read one list. -/
theorem isUnified_call_of_generator (hgrounded : table.Grounded) (next : StoreCall)
    {a b : StoreRef} (hgenerator : table.isUnified a b = true ∨ (a, b) ∈ table.pairsOf next) :
    (table.call next).2.isUnified a b = true := by
  cases next with
  | create =>
      have hunified : table.isUnified a b = true := by simpa [pairsOf] using hgenerator
      exact (isUnified_create_iff hgrounded).mpr (.inl hunified)
  | push store token =>
      rw [call, (table.push_sameShape store token).isUnified_eq]
      simpa [pairsOf] using hgenerator
  | clear store =>
      rw [call, (table.clear_sameShape store).isUnified_eq]
      simpa [pairsOf] using hgenerator
  | unify parent child =>
      by_cases hknown : table.contains parent = true ∧ table.contains child = true
      · obtain ⟨parentRoot, hparent⟩ := hgrounded parent hknown.1
        obtain ⟨childRoot, hchild⟩ := hgrounded child hknown.2
        rw [call, isUnified_unify hparent hchild hgrounded]
        refine hgenerator.imp_right fun hpair => ?_
        obtain ⟨rfl, rfl⟩ : a = parent ∧ b = child := by simpa [pairsOf, hknown] using hpair
        exact ⟨.inl (hgrounded.isUnified_self hknown.1), .inr (hgrounded.isUnified_self hknown.2)⟩
      · rw [call, unify_of_not_contains hgrounded hknown]
        simpa [pairsOf, hknown] using hgenerator

theorem isUnified_callAll_iff (hgrounded : table.Grounded) (calls : List StoreCall)
    (a b : StoreRef) :
    (table.callAll calls).2.isUnified a b = true ∨ a = b ↔
      table.Joined (unifiedPairs table.slots.size calls) a b := by
  induction calls generalizing table with
  | nil => exact joined_nil_iff.symm
  | cons next rest ih =>
      refine (ih (hgrounded.call next)).trans ?_
      rw [unifiedPairs_cons, Joined, Joined]
      constructor
      · refine Relation.EqvGen.eqvGen_le ?_ _ _
        rintro a b (hunified | hpair)
        · refine (isUnified_call hgrounded next hunified).mono fun a b hrelated => ?_
          exact hrelated.imp_right (List.mem_append_left _)
        · exact .rel _ _ (.inr (List.mem_append_right _ hpair))
      · refine Relation.EqvGen.eqvGen_le ?_ _ _
        intro a b hrelated
        rw [List.mem_append, ← or_assoc] at hrelated
        exact .rel _ _ (hrelated.imp_left (isUnified_call_of_generator hgrounded next))

/-- From an empty table on, the unified pairs alone decide. -/
theorem isUnified_empty_callAll_iff (calls : List StoreCall) {a b : StoreRef} :
    (empty.callAll calls).2.isUnified a b = true ↔
      (empty.callAll calls).2.contains a = true ∧ (empty.callAll calls).2.contains b = true ∧
        Relation.EqvGen (fun parent child => (parent, child) ∈ unifiedPairs 0 calls) a b := by
  have hgrounded := (Partition.Represents.empty.callAll calls).2.grounded
  have hempty : ∀ a b, empty.isUnified a b = false := fun a b => rfl
  have hjoined := isUnified_callAll_iff .empty calls a b
  simp only [Joined, hempty, Bool.false_eq_true, false_or] at hjoined
  constructor
  · intro hunified
    obtain ⟨ha, hb⟩ := contains_of_isUnified hunified
    exact ⟨ha, hb, hjoined.mp (.inl hunified)⟩
  · rintro ⟨ha, _, hrelated⟩
    rcases hjoined.mpr hrelated with hunified | rfl
    · exact hunified
    · exact hgrounded.isUnified_self ha

/-! ## What a list holds -/

/-- The recorded tokens that are not cleared yet, each with the handle that it was recorded
under: a call adds to them or removes the tokens of a class from them. -/
def standingAfter (table : StoreTable) (entries : List (StoreRef × String)) :
    StoreCall → List (StoreRef × String)
  | .push store token => if table.contains store then entries ++ [(store, token)] else entries
  | .clear store => entries.filter fun entry => !table.isUnified store entry.1
  | _ => entries

/-- The recorded tokens that are not cleared by the end of a sequence of calls. -/
def standing (table : StoreTable) (entries : List (StoreRef × String)) :
    List StoreCall → List (StoreRef × String)
  | [] => entries
  | next :: rest => (table.call next).2.standing (table.standingAfter entries next) rest

/-- Every list holds the standing tokens of its class, each once, and no others. -/
structure Accounted (table : StoreTable) (entries : List (StoreRef × String)) : Prop where
  known : ∀ entry ∈ entries, table.contains entry.1 = true
  values_perm : ∀ store, table.contains store = true →
    (table.values store).Perm
      ((entries.filter fun entry => table.isUnified store entry.1).map (·.2))

/-- Filtering by either of two conditions that exclude each other gives what the two give one
after the other, up to the order. -/
theorem filter_or_perm {α : Type} (first second : α → Bool) (elements : List α)
    (hexclusive : ∀ element, first element = true → second element = false) :
    (elements.filter first ++ elements.filter second).Perm
      (elements.filter fun element => first element || second element) := by
  have hsplit := List.filter_append_perm first
    (elements.filter fun element => first element || second element)
  have hfirst : ∀ element, (first element && (first element || second element)) =
      first element := by
    intro element
    cases first element <;> rfl
  have hsecond : ∀ element, (!first element && (first element || second element)) =
      second element := by
    intro element
    cases hcase : first element with
    | false => rfl
    | true => exact (hexclusive element hcase).symm
  simpa only [List.filter_filter, hfirst, hsecond] using hsplit

namespace Accounted

variable {entries : List (StoreRef × String)}

theorem empty : StoreTable.empty.Accounted [] := by
  refine ⟨by simp, fun store hcontains => ?_⟩
  simp [contains, StoreTable.empty] at hcontains

theorem create (haccounted : table.Accounted entries) (hgrounded : table.Grounded) :
    table.create.2.Accounted entries := by
  have hold : ∀ entry ∈ entries, table.create.2.contains entry.1 = true := fun entry hentry =>
    contains_create_of_contains (haccounted.known entry hentry)
  refine ⟨hold, fun store hcontains => ?_⟩
  rw [contains_create, Bool.or_eq_true, decide_eq_true_eq] at hcontains
  rcases hcontains with rfl | hcontains
  · -- Nothing was recorded under a handle that was not given out.
    have hnone : (entries.filter fun entry =>
        table.create.2.isUnified table.create.1 entry.1) = [] := by
      refine List.filter_eq_nil_iff.mpr fun entry hentry hunified => ?_
      have hknown := haccounted.known entry hentry
      rw [isUnified_of_resolve table.resolve_create_new, decide_eq_true_eq,
        resolve_create_of_contains hgrounded hknown] at hunified
      exact Nat.lt_irrefl _ (lt_size_of_resolve (resolve_root hunified))
    rw [hnone, values_create_new, List.map_nil]
  · have hsame : ∀ entry ∈ entries, table.create.2.isUnified store entry.1 =
        table.isUnified store entry.1 := by
      intro entry hentry
      simp only [isUnified, resolve_create_of_contains hgrounded hcontains,
        resolve_create_of_contains hgrounded (haccounted.known entry hentry)]
    rw [values_create_of_contains hgrounded hcontains, List.filter_congr hsame]
    exact haccounted.values_perm store hcontains

theorem push (haccounted : table.Accounted entries) (hgrounded : table.Grounded)
    (store : StoreRef) (token : String) :
    (table.push store token).1.Accounted (table.standingAfter entries (.push store token)) := by
  have hshape := table.push_sameShape store token
  by_cases hknown : table.contains store = true
  · rw [standingAfter, if_pos hknown]
    refine ⟨fun entry hentry => ?_, fun other hother => ?_⟩
    · rw [hshape.contains_eq]
      rcases List.mem_append.mp hentry with hentry | hentry
      · exact haccounted.known entry hentry
      · obtain rfl := List.mem_singleton.mp hentry
        exact hknown
    · rw [hshape.contains_eq] at hother
      have hperm := haccounted.values_perm other hother
      have hsymm : table.isUnified store other = table.isUnified other store :=
        Bool.eq_iff_iff.mpr ⟨isUnified_symm, isUnified_symm⟩
      rw [values_push, hsymm]
      simp only [hshape.isUnified_eq, List.filter_append, List.map_append]
      by_cases hunified : table.isUnified other store = true
      · simpa [hunified] using hperm.append_right [token]
      · simpa [hunified] using hperm
  · have hnone := hgrounded.resolve_eq_none_iff.mpr (Bool.eq_false_iff.mpr hknown)
    have hsame : (table.push store token).1 = table := by simp [StoreTable.push, hnone]
    rw [hsame, standingAfter, if_neg hknown]
    exact haccounted

theorem clear (haccounted : table.Accounted entries) (store : StoreRef) :
    (table.clear store).Accounted (table.standingAfter entries (.clear store)) := by
  have hshape := table.clear_sameShape store
  refine ⟨fun entry hentry => ?_, fun other hother => ?_⟩
  · rw [hshape.contains_eq]
    exact haccounted.known entry (List.mem_filter.mp hentry).1
  · rw [hshape.contains_eq] at hother
    have hperm := haccounted.values_perm other hother
    rw [values_clear]
    simp only [standingAfter, hshape.isUnified_eq, List.filter_filter]
    by_cases hunified : table.isUnified store other = true
    · -- What is cleared is what the class holds, so nothing of it stays.
      have hnone : (entries.filter fun entry =>
          table.isUnified other entry.1 && !table.isUnified store entry.1) = [] := by
        refine List.filter_eq_nil_iff.mpr fun entry _ hboth => ?_
        rw [Bool.and_eq_true, Bool.not_eq_true'] at hboth
        exact absurd (isUnified_trans hunified hboth.1) (Bool.eq_false_iff.mp hboth.2)
      rw [if_pos hunified, hnone, List.map_nil]
    · have hsame : ∀ entry ∈ entries,
          (table.isUnified other entry.1 && !table.isUnified store entry.1) =
            table.isUnified other entry.1 := by
        intro entry _
        cases hentry : table.isUnified other entry.1 with
        | false => rfl
        | true =>
            have hapart : ¬ table.isUnified store entry.1 = true := fun hboth =>
              hunified (isUnified_trans hboth (isUnified_symm hentry))
            simpa using hapart
      rw [if_neg hunified, List.filter_congr hsame]
      exact hperm

/-- The class of either handle holds what both classes held, every other class what it held. -/
theorem values_unify (haccounted : table.Accounted entries) (hgrounded : table.Grounded)
    {parent child parentRoot childRoot store : StoreRef}
    (hparent : table.resolve parent = some parentRoot)
    (hchild : table.resolve child = some childRoot) (hroots : parentRoot ≠ childRoot)
    (hcontains : table.contains store = true) :
    ((table.unify parent child).2.values store).Perm
      ((entries.filter fun entry =>
        (table.unify parent child).2.isUnified store entry.1).map (·.2)) := by
  obtain ⟨root, hroot⟩ := hgrounded store hcontains
  have hvalues := values_unify_of_resolve hparent hchild hroots hroot
  have hafter := fun other => isUnified_unify hparent hchild hgrounded store other
  have hclass : (table.isUnified parent store = true ∨ table.isUnified child store = true) ↔
      (root = parentRoot ∨ root = childRoot) := by
    simp [isUnified_of_resolve hparent, isUnified_of_resolve hchild, hroot]
  by_cases hjoined : root = parentRoot ∨ root = childRoot
  · have hsame : ∀ entry ∈ entries, (table.unify parent child).2.isUnified store entry.1 =
        (table.isUnified parent entry.1 || table.isUnified child entry.1) := by
      intro entry _
      rw [Bool.eq_iff_iff, hafter, Bool.or_eq_true]
      have hstore := hclass.mpr hjoined
      constructor
      · rintro (hunified | ⟨_, hentry⟩)
        · exact hstore.imp (isUnified_trans · hunified) (isUnified_trans · hunified)
        · exact hentry
      · exact fun hentry => .inr ⟨hstore, hentry⟩
    have hexclusive : ∀ entry : StoreRef × String, table.isUnified parent entry.1 = true →
        table.isUnified child entry.1 = false := by
      intro entry hentry
      rw [isUnified_of_resolve hparent, decide_eq_true_eq] at hentry
      simpa [isUnified_of_resolve hchild, hentry] using hroots
    rw [hvalues, if_pos hjoined, List.filter_congr hsame]
    have hlists := (haccounted.values_perm parent (contains_of_resolve hparent)).append
      (haccounted.values_perm child (contains_of_resolve hchild))
    rw [← List.map_append] at hlists
    exact hlists.trans ((filter_or_perm _ _ entries hexclusive).map _)
  · have hsame : ∀ entry ∈ entries, (table.unify parent child).2.isUnified store entry.1 =
        table.isUnified store entry.1 := by
      intro entry _
      rw [Bool.eq_iff_iff, hafter, or_iff_left]
      exact fun hboth => hjoined (hclass.mp hboth.1)
    rw [hvalues, if_neg hjoined, List.filter_congr hsame]
    exact haccounted.values_perm store hcontains

theorem unify (haccounted : table.Accounted entries) (hgrounded : table.Grounded)
    (parent child : StoreRef) : (table.unify parent child).2.Accounted entries := by
  cases hparent : table.resolve parent with
  | none => rwa [unify_of_unknown (.inl hparent)]
  | some parentRoot =>
      cases hchild : table.resolve child with
      | none => rwa [unify_of_unknown (.inr hchild)]
      | some childRoot =>
          by_cases hroots : parentRoot = childRoot
          · rwa [unify_of_same hparent (hroots ▸ hchild)]
          · refine ⟨fun entry hentry => ?_, fun store hcontains => ?_⟩
            · rw [contains_unify]
              exact haccounted.known entry hentry
            · rw [contains_unify] at hcontains
              exact haccounted.values_unify hgrounded hparent hchild hroots hcontains

theorem standingAfter (haccounted : table.Accounted entries) (hgrounded : table.Grounded)
    (next : StoreCall) :
    (table.call next).2.Accounted (table.standingAfter entries next) := by
  cases next with
  | create => exact haccounted.create hgrounded
  | push store token => exact haccounted.push hgrounded store token
  | clear store => exact haccounted.clear store
  | unify parent child => exact haccounted.unify hgrounded parent child

theorem standing (haccounted : table.Accounted entries) (hgrounded : table.Grounded)
    (calls : List StoreCall) :
    (table.callAll calls).2.Accounted (table.standing entries calls) := by
  induction calls generalizing table entries with
  | nil => exact haccounted
  | cons next rest ih =>
      exact ih (haccounted.standingAfter hgrounded next) (hgrounded.call next)

end Accounted

/-- A sequence of calls on an empty table of stores, with whatever handles, is answered as by a
partition of the handles with one list for each class, and the two show the same afterwards: which
handles were given out, what stands for the class of a handle, what its list holds, and which
handles read one list. These are the handles given out that the least equivalence relates in which
the unified pairs are related, so the order of the pairs and of the calls between them is
indifferent. A list holds the tokens recorded in its class and not cleared since, each once. -/
theorem callAll_refines_partition (calls : List StoreCall) :
    let table := (empty.callAll calls).2
    let partition := (Partition.empty.callAll calls).2
    (empty.callAll calls).1 = (Partition.empty.callAll calls).1 ∧ partition.Valid ∧
      (∀ store, table.contains store = partition.contains store ∧
        table.resolve store = partition.resolve store ∧
        table.values store = partition.values store) ∧
      (∀ a b, table.isUnified a b = partition.isUnified a b) ∧
      (∀ a b, table.isUnified a b = true ↔
        table.contains a = true ∧ table.contains b = true ∧
          Relation.EqvGen (fun parent child => (parent, child) ∈ unifiedPairs 0 calls) a b) ∧
      (∀ others : List StoreCall,
        (∀ store, (empty.callAll others).2.contains store = table.contains store) →
        (∀ pair, pair ∈ unifiedPairs 0 others ↔ pair ∈ unifiedPairs 0 calls) →
        ∀ a b, (empty.callAll others).2.isUnified a b = table.isUnified a b) ∧
      ∀ store, table.contains store = true →
        (table.values store).Perm
          (((empty.standing [] calls).filter fun entry =>
            table.isUnified store entry.1).map (·.2)) := by
  obtain ⟨hreplies, hrepresents⟩ := Partition.Represents.empty.callAll calls
  have hleast := fun calls a b => isUnified_empty_callAll_iff calls (a := a) (b := b)
  refine ⟨hreplies.symm, hrepresents.valid, ?_, hrepresents.isUnified_eq, hleast calls, ?_,
    (Accounted.empty.standing .empty calls).values_perm⟩
  · intro store
    exact ⟨hrepresents.contains_eq store, hrepresents.resolve_values_eq store⟩
  · intro others hcontains hpairs a b
    have hsame : (fun parent child => (parent, child) ∈ unifiedPairs 0 others) =
        fun parent child => (parent, child) ∈ unifiedPairs 0 calls := by
      funext parent child
      exact propext (hpairs (parent, child))
    rw [Bool.eq_iff_iff, hleast others, hleast calls, hcontains, hcontains, hsame]

end StoreTable

end CommandGrammar
