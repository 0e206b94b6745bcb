import CommandGrammar.Proofs.Store.Calls
import CommandGrammar.Proofs.Store.Drained

/-! # Tables that read alike

Where a chain of redirections ends depends on the order in which stores were unified, but nobody
sees it: what can be asked of a table is which handles exist, which of them read one list, and what
they read. Tables that agree on this go on agreeing, whatever is created, recorded, emptied or
unified in both. Two unifications of stores that hold no tokens can therefore change places.
-/

namespace CommandGrammar.StoreTable

/-- Two tables in which every handle resolves, with the same handles, the same handles of one list
and the same lists. They may redirect their handles differently. -/
structure Alike (left right : StoreTable) : Prop where
  left_grounded : left.Grounded
  right_grounded : right.Grounded
  size_eq : left.slots.size = right.slots.size
  isUnified_eq : ∀ a b, left.isUnified a b = right.isUnified a b
  values_eq : ∀ store, left.values store = right.values store

namespace Alike

variable {left right : StoreTable}

theorem refl {table : StoreTable} (hgrounded : table.Grounded) : table.Alike table :=
  ⟨hgrounded, hgrounded, rfl, fun _ _ => rfl, fun _ => rfl⟩

theorem contains_eq (halike : left.Alike right) (store : StoreRef) :
    left.contains store = right.contains store := by
  simp only [contains, halike.size_eq]

theorem resolve_eq_none_iff (halike : left.Alike right) (store : StoreRef) :
    left.resolve store = none ↔ right.resolve store = none := by
  rw [halike.left_grounded.resolve_eq_none_iff, halike.right_grounded.resolve_eq_none_iff,
    halike.contains_eq]

/-! ## Calls on both tables -/

theorem create_fst_eq (halike : left.Alike right) : left.create.1 = right.create.1 := by
  rw [StoreTable.create, StoreTable.create, halike.size_eq]

theorem create (halike : left.Alike right) : left.create.2.Alike right.create.2 := by
  refine ⟨halike.left_grounded.create, halike.right_grounded.create, ?_, fun a b => ?_, ?_⟩
  · simp [StoreTable.create, halike.size_eq]
  · rw [Bool.eq_iff_iff, isUnified_create_iff halike.left_grounded,
      isUnified_create_iff halike.right_grounded, halike.isUnified_eq, halike.create_fst_eq]
  · intro store
    rw [values_create halike.left_grounded, values_create halike.right_grounded, halike.values_eq]

/-- What changes lists only has to change them alike. -/
theorem of_sameShape (halike : left.Alike right) {left' right' : StoreTable}
    (hleft : left'.SameShape left) (hright : right'.SameShape right)
    (hvalues : ∀ store, left'.values store = right'.values store) : left'.Alike right' := by
  refine ⟨halike.left_grounded.of_sameShape hleft, halike.right_grounded.of_sameShape hright, ?_,
    fun a b => ?_, hvalues⟩
  · rw [hleft.size_eq, hright.size_eq, halike.size_eq]
  · rw [hleft.isUnified_eq, hright.isUnified_eq, halike.isUnified_eq]

theorem push (halike : left.Alike right) (store : StoreRef) (token : String) :
    (left.push store token).1.Alike (right.push store token).1 := by
  refine halike.of_sameShape (left.push_sameShape store token) (right.push_sameShape store token)
    fun other => ?_
  rw [values_push, values_push, halike.isUnified_eq, halike.values_eq]

theorem push_snd_eq (halike : left.Alike right) (store : StoreRef) (token : String) :
    (left.push store token).2 = (right.push store token).2 := by
  have hnone := halike.resolve_eq_none_iff store
  unfold StoreTable.push
  cases hleft : left.resolve store with
  | none => rw [hnone.mp hleft]
  | some root =>
      cases hright : right.resolve store with
      | none => simp [hleft, hright] at hnone
      | some other => rfl

/-- Both tables join the same two lists, or find them joined, or do not know the handles. -/
theorem unify (halike : left.Alike right) (parent child : StoreRef) :
    (left.unify parent child).2.Alike (right.unify parent child).2 := by
  have hleft := halike.left_grounded
  have hright := halike.right_grounded
  by_cases hknown : left.contains parent = true ∧ left.contains child = true
  · have hknown' : right.contains parent = true ∧ right.contains child = true := by
      rwa [← halike.contains_eq, ← halike.contains_eq]
    obtain ⟨parentRoot, hparent⟩ := hleft parent hknown.1
    obtain ⟨childRoot, hchild⟩ := hleft child hknown.2
    obtain ⟨parentRoot', hparent'⟩ := hright parent hknown'.1
    obtain ⟨childRoot', hchild'⟩ := hright child hknown'.2
    refine ⟨hleft.unify parent child, hright.unify parent child, ?_, fun a b => ?_, fun store => ?_⟩
    · rw [size_unify, size_unify, halike.size_eq]
    · rw [Bool.eq_iff_iff, isUnified_unify hparent hchild hleft,
        isUnified_unify hparent' hchild' hright]
      simp only [halike.isUnified_eq]
    · cases hjoined : left.isUnified parent child with
      | true =>
          obtain ⟨root, hroot, hsame⟩ := (isUnified_iff _).mp hjoined
          obtain ⟨root', hroot', hsame'⟩ :=
            (isUnified_iff _).mp ((halike.isUnified_eq parent child).symm.trans hjoined)
          rw [unify_of_same hroot hsame, unify_of_same hroot' hsame', halike.values_eq]
      | false =>
          have hjoined' := (halike.isUnified_eq parent child).symm.trans hjoined
          rw [values_unify hleft hknown.1 hknown.2 hjoined,
            values_unify hright hknown'.1 hknown'.2 hjoined']
          simp only [halike.isUnified_eq, halike.values_eq]
  · have hknown' : ¬ (right.contains parent = true ∧ right.contains child = true) := by
      rwa [← halike.contains_eq, ← halike.contains_eq]
    rw [unify_of_not_contains hleft hknown, unify_of_not_contains hright hknown']
    exact halike

end Alike

/-! ## Unifications in either order -/

variable {table : StoreTable}

theorem Grounded.isUnified_self_iff (hgrounded : table.Grounded) (store : StoreRef) :
    table.isUnified store store = true ↔ table.contains store = true :=
  ⟨fun hunified => (contains_of_isUnified hunified).1, hgrounded.isUnified_self⟩

/-- Which handles read one list after two unifications does not depend on their order. -/
theorem Grounded.isUnified_unify_unify (hgrounded : table.Grounded)
    (parent child otherParent otherChild a b : StoreRef) :
    ((table.unify parent child).2.unify otherParent otherChild).2.isUnified a b =
      ((table.unify otherParent otherChild).2.unify parent child).2.isUnified a b := by
  -- Either order joins the same pairs, and the pairs decide, up to handles that are the same.
  have hpairs : ∀ pair, pair ∈ unifiedPairs table.slots.size
        [.unify parent child, .unify otherParent otherChild] ↔
      pair ∈ unifiedPairs table.slots.size
        [.unify otherParent otherChild, .unify parent child] := by
    intro pair
    simp only [unifiedPairs]
    split <;> split <;> simp [or_comm]
  have hboth : ((table.unify parent child).2.unify otherParent otherChild).2.isUnified a b = true ∨
        a = b ↔
      ((table.unify otherParent otherChild).2.unify parent child).2.isUnified a b = true ∨
        a = b := by
    refine (isUnified_callAll_iff hgrounded
      [.unify parent child, .unify otherParent otherChild] a b).trans ?_
    refine Iff.trans ?_ (isUnified_callAll_iff hgrounded
      [.unify otherParent otherChild, .unify parent child] a b).symm
    simp only [Joined, hpairs]
  rw [Bool.eq_iff_iff]
  by_cases hsame : a = b
  · subst hsame
    rw [((hgrounded.unify _ _).unify _ _).isUnified_self_iff,
      ((hgrounded.unify _ _).unify _ _).isUnified_self_iff]
    simp only [contains_unify]
  · simpa [hsame] using hboth

/-- In a table without tokens two unifications can change places. -/
theorem Drained.unify_unify_alike (hdrained : table.Drained) (hgrounded : table.Grounded)
    (parent child otherParent otherChild : StoreRef) :
    ((table.unify parent child).2.unify otherParent otherChild).2.Alike
      ((table.unify otherParent otherChild).2.unify parent child).2 := by
  refine ⟨(hgrounded.unify _ _).unify _ _, (hgrounded.unify _ _).unify _ _, ?_,
    hgrounded.isUnified_unify_unify _ _ _ _, fun store => ?_⟩
  · simp only [size_unify]
  · rw [(drained_iff _).mp ((hdrained.unify _ _).unify _ _),
      (drained_iff _).mp ((hdrained.unify _ _).unify _ _)]

end CommandGrammar.StoreTable
