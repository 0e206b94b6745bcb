import CommandGrammar.Grammar.Reach
import Mathlib.Logic.Relation

/-! # Reachability along child edges

The walk through a grammar lists exactly the stored nodes that child edges lead to from where it
starts. Cycles, shared nodes and repeated starts are covered: the walk stops because every place
is visited once, and it misses nothing because what a visited node leads to was visited or is
still pending.
-/

namespace CommandGrammar

theorem Node.mem_childIndices_iff {R : Type} (node : Node R) (target : Nat) :
    target ∈ node.childIndices ↔ ∃ key, node.child? key = some target := by
  simp [childIndices, childEntries, child?, Std.ExtTreeMap.mem_toList_iff_getElem?_eq_some]

namespace Grammar

variable {R : Type} (grammar : Grammar R)

theorem node?_eq_some_iff {grammar : Grammar R} {node : NodeRef} {found : Node R} :
    grammar.node? node = some found ↔
      ∃ index, node = .stored index ∧ grammar.nodes[index]? = some found := by
  cases node <;> simp [node?]

/-- The node at the first place has the second place among its children. -/
def Edge (source target : Nat) : Prop :=
  ∃ node key, grammar.nodes[source]? = some node ∧ node.child? key = some target

/-- Zero or more child edges lead from the first place to the second. -/
def Reaches : Nat → Nat → Prop := Relation.ReflTransGen grammar.Edge

theorem edge_iff_mem_childIndices {source : Nat} (hsource : source < grammar.nodes.size)
    (target : Nat) : grammar.Edge source target ↔ target ∈ grammar.nodes[source].childIndices := by
  rw [Node.mem_childIndices_iff]
  simp [Edge, hsource]

theorem Edge.source_lt {grammar : Grammar R} {source target : Nat}
    (hedge : grammar.Edge source target) : source < grammar.nodes.size := by
  obtain ⟨node, _, hnode, _⟩ := hedge
  exact (Array.getElem?_eq_some_iff.mp hnode).1

theorem mem_visit_of_mem_seen {pending seen : List Nat} {index : Nat} (hseen : index ∈ seen) :
    index ∈ grammar.visit pending seen := by
  fun_induction visit grammar pending seen with
  | case1 seen => exact List.mem_reverse.mpr hseen
  | case2 next pending seen hnext hmem ih => exact ih hseen
  | case3 next pending seen hnext hmem ih => exact ih (List.mem_cons_of_mem _ hseen)
  | case4 next pending seen hnext ih => exact ih hseen

theorem mem_visit_of_mem_pending {pending seen : List Nat} {index : Nat}
    (hindex : index < grammar.nodes.size) (hpending : index ∈ pending) :
    index ∈ grammar.visit pending seen := by
  fun_induction visit grammar pending seen with
  | case1 seen => simp at hpending
  | case2 next pending seen hnext hmem ih =>
      rcases List.mem_cons.mp hpending with rfl | hpending
      · exact grammar.mem_visit_of_mem_seen hmem
      · exact ih hpending
  | case3 next pending seen hnext hmem ih =>
      rcases List.mem_cons.mp hpending with rfl | hpending
      · exact grammar.mem_visit_of_mem_seen List.mem_cons_self
      · exact ih (List.mem_append_right _ hpending)
  | case4 next pending seen hnext ih =>
      rcases List.mem_cons.mp hpending with rfl | hpending
      · exact absurd hindex hnext
      · exact ih hpending

/-- The walk visits only what it has seen and the stored places that its pending places reach. -/
theorem reaches_of_mem_visit {pending seen : List Nat} {index : Nat}
    (hindex : index ∈ grammar.visit pending seen) :
    index ∈ seen ∨ index < grammar.nodes.size ∧ ∃ start ∈ pending, grammar.Reaches start index := by
  fun_induction visit grammar pending seen with
  | case1 seen => exact .inl (List.mem_reverse.mp hindex)
  | case2 next pending seen hnext hmem ih =>
      refine (ih hindex).imp_right ?_
      rintro ⟨hsize, start, hstart, hreaches⟩
      exact ⟨hsize, start, List.mem_cons_of_mem _ hstart, hreaches⟩
  | case3 next pending seen hnext hmem ih =>
      rcases ih hindex with hseen | ⟨hsize, start, hstart, hreaches⟩
      · rcases List.mem_cons.mp hseen with rfl | hseen
        · exact .inr ⟨hnext, index, List.mem_cons_self, .refl⟩
        · exact .inl hseen
      · refine .inr ⟨hsize, ?_⟩
        rcases List.mem_append.mp hstart with hchild | hstart
        · have hedge := (grammar.edge_iff_mem_childIndices hnext start).mpr hchild
          exact ⟨next, List.mem_cons_self, .head hedge hreaches⟩
        · exact ⟨start, List.mem_cons_of_mem _ hstart, hreaches⟩
  | case4 next pending seen hnext ih =>
      refine (ih hindex).imp_right ?_
      rintro ⟨hsize, start, hstart, hreaches⟩
      exact ⟨hsize, start, List.mem_cons_of_mem _ hstart, hreaches⟩

/-- What the walk visits is closed under child edges to stored places, provided that whatever
stored place the seen ones lead to is seen or pending. -/
theorem mem_visit_of_edge {pending seen : List Nat}
    (hclosed : ∀ source ∈ seen, ∀ target, grammar.Edge source target →
      target < grammar.nodes.size → target ∈ seen ∨ target ∈ pending)
    {source target : Nat} (hsource : source ∈ grammar.visit pending seen)
    (hedge : grammar.Edge source target) (htarget : target < grammar.nodes.size) :
    target ∈ grammar.visit pending seen := by
  fun_induction visit grammar pending seen with
  | case1 seen =>
      rcases hclosed source (List.mem_reverse.mp hsource) target hedge htarget with hseen | hpending
      · exact List.mem_reverse.mpr hseen
      · simp at hpending
  | case2 next pending seen hnext hmem ih =>
      refine ih (fun source hseen target hedge htarget => ?_) hsource
      rcases hclosed source hseen target hedge htarget with hseen | hpending
      · exact .inl hseen
      · rcases List.mem_cons.mp hpending with rfl | hpending
        · exact .inl hmem
        · exact .inr hpending
  | case3 next pending seen hnext hmem ih =>
      -- The place joins the seen ones, and all that it leads to joins the pending ones.
      refine ih (fun source hseen target hedge htarget => ?_) hsource
      rcases List.mem_cons.mp hseen with rfl | hseen
      · have hchild := (grammar.edge_iff_mem_childIndices hnext target).mp hedge
        exact .inr (List.mem_append_left _ hchild)
      · rcases hclosed source hseen target hedge htarget with hseen | hpending
        · exact .inl (List.mem_cons_of_mem _ hseen)
        · rcases List.mem_cons.mp hpending with rfl | hpending
          · exact .inl List.mem_cons_self
          · exact .inr (List.mem_append_right _ hpending)
  | case4 next pending seen hnext ih =>
      refine ih (fun source hseen target hedge htarget => ?_) hsource
      rcases hclosed source hseen target hedge htarget with hseen | hpending
      · exact .inl hseen
      · rcases List.mem_cons.mp hpending with rfl | hpending
        · exact absurd htarget hnext
        · exact .inr hpending

theorem mem_knownPlaces_iff {nodes : List NodeRef} {index : Nat} :
    index ∈ knownPlaces nodes ↔ .stored index ∈ nodes := by
  simp only [knownPlaces, List.mem_filterMap]
  constructor
  · rintro ⟨node, hnode, hplace⟩
    cases node with
    | notFound => simp at hplace
    | stored place =>
        obtain rfl : place = index := by simpa using hplace
        exact hnode
  · intro hnode
    exact ⟨.stored index, hnode, rfl⟩

/-- The places reachable from handles are the stored ones that child edges lead to. -/
theorem mem_reachable_iff (roots : List NodeRef) (index : Nat) :
    index ∈ grammar.reachable roots ↔
      index < grammar.nodes.size ∧
        ∃ start, .stored start ∈ roots ∧ grammar.Reaches start index := by
  constructor
  · intro hindex
    rcases grammar.reaches_of_mem_visit hindex with hseen | ⟨hsize, start, hstart, hreaches⟩
    · simp at hseen
    · exact ⟨hsize, start, mem_knownPlaces_iff.mp hstart, hreaches⟩
  · rintro ⟨hsize, start, hstart, hreaches⟩
    -- Every place but the last has an outgoing edge and is therefore stored.
    induction hreaches with
    | refl => exact grammar.mem_visit_of_mem_pending hsize (mem_knownPlaces_iff.mpr hstart)
    | tail _ hedge ih =>
        have hsource := ih hedge.source_lt
        exact grammar.mem_visit_of_edge (fun _ hseen => by simp at hseen) hsource hedge hsize

/-! ## Evaluating the walk -/

/-- The walk, given up after a number of steps. It recurs on that number, so it can be evaluated. -/
def visitWithin (grammar : Grammar R) : Nat → List Nat → List Nat → Option (List Nat)
  | _, [], seen => some seen.reverse
  | 0, _ :: _, _ => none
  | steps + 1, next :: pending, seen =>
    if h : next < grammar.nodes.size then
      if next ∈ seen then visitWithin grammar steps pending seen
      else visitWithin grammar steps (grammar.nodes[next].childIndices ++ pending) (next :: seen)
    else visitWithin grammar steps pending seen

variable {grammar}

theorem visit_eq_of_visitWithin {steps : Nat} {pending seen places : List Nat}
    (hwithin : grammar.visitWithin steps pending seen = some places) :
    grammar.visit pending seen = places := by
  fun_induction visitWithin grammar steps pending seen with
  | case1 steps seen => rw [visit, Option.some.inj hwithin]
  | case2 next pending seen => simp at hwithin
  | case3 steps next pending seen hnext hmem ih =>
      rw [visit, dif_pos hnext, if_pos hmem, ih hwithin]
  | case4 steps next pending seen hnext hmem ih =>
      rw [visit, dif_pos hnext, if_neg hmem, ih hwithin]
  | case5 steps next pending seen hnext ih => rw [visit, dif_neg hnext, ih hwithin]

theorem reachable_eq_of_visitWithin {roots : List NodeRef} (steps : Nat) {places : List Nat}
    (hwithin : grammar.visitWithin steps (knownPlaces roots) [] = some places) :
    grammar.reachable roots = places :=
  visit_eq_of_visitWithin hwithin

end Grammar

end CommandGrammar
