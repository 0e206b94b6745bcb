import CommandGrammar.Proofs.Grammar.Reachability
import Mathlib.Algebra.BigOperators.Group.Finset.Basic

/-! # Traversals turn by turn

A traversal keeps a stack of handles to visit and a list of those that it has visited. A handle is
marked when it is taken from the stack and not when it is put there, so the stack may hold it
several times, and stale entries are dropped when their turn comes. Whatever order the children of
a node are put on the stack in, the traversal stops, and what it has visited then is what child
edges lead to. If the order is that of the keys, it has visited the places in the order of the walk.
-/

namespace CommandGrammar

/-- A traversal under way: the handles still to visit, the next one first, and the visited ones,
the last one first. -/
structure Traversal where
  pending : List NodeRef
  visited : List NodeRef

namespace Node

variable {R : Type}

/-- The children of a node in some order, as a table without an order lists them. -/
def AnyOrder (node : Node R) (order : List Nat) : Prop := order.Perm node.childIndices

/-- The children of a node in the order of their keys. -/
def KeyOrder (node : Node R) (order : List Nat) : Prop := order = node.childIndices

theorem KeyOrder.anyOrder {node : Node R} {order : List Nat} (horder : node.KeyOrder order) :
    node.AnyOrder order := by
  rw [KeyOrder] at horder
  exact horder ▸ .refl _

end Node

namespace Grammar

variable {R : Type}

/-- One turn of a traversal. The next handle is taken. Unless it was visited before, it is marked,
and the children of its node are put in front of what is still to visit. -/
inductive Turn (grammar : Grammar R) (orders : Node R → List Nat → Prop) :
    Traversal → Traversal → Prop where
  /-- The handle was visited before. -/
  | again {node : NodeRef} {pending visited : List NodeRef} (hseen : node ∈ visited) :
      Turn grammar orders ⟨node :: pending, visited⟩ ⟨pending, visited⟩
  /-- The handle has no node. -/
  | unknown {node : NodeRef} {pending visited : List NodeRef} (hseen : node ∉ visited)
      (hnode : grammar.node? node = none) :
      Turn grammar orders ⟨node :: pending, visited⟩ ⟨pending, node :: visited⟩
  | enter {node : NodeRef} {pending visited : List NodeRef} {found : Node R} {order : List Nat}
      (hseen : node ∉ visited) (hnode : grammar.node? node = some found)
      (horder : orders found order) :
      Turn grammar orders ⟨node :: pending, visited⟩
        ⟨order.map .stored ++ pending, node :: visited⟩

/-- Whatever turns a traversal from the given handles takes, it stops, it has nothing left to visit
then, and what it has visited then is as described. -/
structure Traverses (grammar : Grammar R) (orders : Node R → List Nat → Prop)
    (roots : List NodeRef) (visits : List NodeRef → Prop) : Prop where
  stops : WellFounded fun after before => grammar.Turn orders before after
  finished : ∀ traversal, (∀ after, ¬ grammar.Turn orders traversal after) → traversal.pending = []
  visits : ∀ final, Relation.ReflTransGen (grammar.Turn orders) ⟨roots, []⟩ final →
    final.pending = [] → visits final.visited

variable {grammar : Grammar R} {orders : Node R → List Nat → Prop} {before after : Traversal}

theorem Traverses.imp {roots : List NodeRef} {visits shows : List NodeRef → Prop}
    (htraverses : grammar.Traverses orders roots visits)
    (himp : ∀ visited, visits visited → shows visited) :
    grammar.Traverses orders roots shows :=
  ⟨htraverses.stops, htraverses.finished, fun final hturns hpending =>
    himp _ (htraverses.visits final hturns hpending)⟩

/-! ## A traversal stops -/

/-- How many children the node at a place has. -/
def childCount (grammar : Grammar R) (index : Nat) : Nat :=
  match grammar.nodes[index]? with
  | some node => node.childIndices.length
  | none => 0

/-- The places of stored nodes that a traversal has not visited. -/
def unvisited (grammar : Grammar R) (visited : List NodeRef) : Finset Nat :=
  (Finset.range grammar.nodes.size).filter fun index => .stored index ∉ visited

/-- How many turns a traversal still takes: one for each handle to visit, and one for each child
of a node that it has not visited. -/
def remaining (grammar : Grammar R) (traversal : Traversal) : Nat :=
  traversal.pending.length + ∑ index ∈ grammar.unvisited traversal.visited, grammar.childCount index

theorem unvisited_cons_of_unknown {node : NodeRef} (hnode : grammar.node? node = none)
    (visited : List NodeRef) :
    grammar.unvisited (node :: visited) = grammar.unvisited visited := by
  refine Finset.filter_congr fun index hindex => ?_
  have hstored : node ≠ .stored index := by
    rintro rfl
    have hsize := Array.getElem?_eq_none_iff.mp hnode
    exact absurd (Finset.mem_range.mp hindex) (Nat.not_lt.mpr hsize)
  simp [hstored.symm]

theorem unvisited_cons_stored (index : Nat) (visited : List NodeRef) :
    grammar.unvisited (.stored index :: visited) = (grammar.unvisited visited).erase index := by
  ext other
  simp only [unvisited, Finset.mem_filter, Finset.mem_erase, List.mem_cons, NodeRef.stored.injEq]
  tauto

/-- Every turn is one of the turns that remain. -/
theorem Turn.remaining_succ (horders : ∀ node order, orders node order → node.AnyOrder order)
    (hturn : grammar.Turn orders before after) :
    grammar.remaining after + 1 = grammar.remaining before := by
  cases hturn with
  | again hseen => simp only [remaining, List.length_cons]; omega
  | unknown hseen hnode =>
      simp only [remaining, List.length_cons, unvisited_cons_of_unknown hnode]
      omega
  | @enter node pending visited found order hseen hnode horder =>
      obtain ⟨index, rfl, hfound⟩ := node?_eq_some_iff.mp hnode
      have hindex : index ∈ grammar.unvisited visited := by
        have hsize := (Array.getElem?_eq_some_iff.mp hfound).1
        exact Finset.mem_filter.mpr ⟨Finset.mem_range.mpr hsize, hseen⟩
      have hcount : grammar.childCount index = order.length := by
        simp [childCount, hfound, (horders found order horder).length_eq]
      have hsum := Finset.add_sum_erase (grammar.unvisited visited) grammar.childCount hindex
      simp only [remaining, List.length_cons, List.length_append, List.length_map,
        unvisited_cons_stored]
      omega

theorem turn_wellFounded (horders : ∀ node order, orders node order → node.AnyOrder order) :
    WellFounded fun after before => grammar.Turn orders before after :=
  Subrelation.wf
    (fun hturn => Nat.lt_of_succ_le (Nat.le_of_eq (Turn.remaining_succ horders hturn)))
    (measure grammar.remaining).wf

/-- A traversal that takes no further turn has nothing left to visit. -/
theorem pending_eq_nil_of_no_turn (hexists : ∀ node, ∃ order, orders node order)
    {traversal : Traversal} (hstuck : ∀ after, ¬ grammar.Turn orders traversal after) :
    traversal.pending = [] := by
  obtain ⟨pending, visited⟩ := traversal
  cases pending with
  | nil => rfl
  | cons node pending =>
      exfalso
      by_cases hseen : node ∈ visited
      · exact hstuck _ (.again hseen)
      · cases hnode : grammar.node? node with
        | none => exact hstuck _ (.unknown hseen hnode)
        | some found =>
            obtain ⟨order, horder⟩ := hexists found
            exact hstuck _ (.enter hseen hnode horder)

/-! ## What a traversal visits -/

/-- What holds at every moment of a traversal: it comes only to places that child edges lead to
from its roots, and neither a root nor a child of a node that it has visited is forgotten. -/
structure Explores (grammar : Grammar R) (roots : List NodeRef) (traversal : Traversal) :
    Prop where
  sound : ∀ index, .stored index ∈ traversal.visited ∨ .stored index ∈ traversal.pending →
    ∃ start, .stored start ∈ roots ∧ grammar.Reaches start index
  closed : ∀ source target, .stored source ∈ traversal.visited → grammar.Edge source target →
    .stored target ∈ traversal.visited ∨ .stored target ∈ traversal.pending
  starts : ∀ root ∈ roots, root ∈ traversal.visited ∨ root ∈ traversal.pending

theorem Explores.start (roots : List NodeRef) : grammar.Explores roots ⟨roots, []⟩ where
  sound := fun index hindex => ⟨index, by simpa using hindex, .refl⟩
  closed := fun source target hsource _ => by simp at hsource
  starts := fun root hroot => .inr hroot

/-- What a traversal has come across is never forgotten: it stays pending until it is visited. -/
theorem Turn.keeps (hturn : grammar.Turn orders before after) {node : NodeRef}
    (hnode : node ∈ before.visited ∨ node ∈ before.pending) :
    node ∈ after.visited ∨ node ∈ after.pending := by
  cases hturn with
  | again hseen =>
      refine hnode.elim .inl fun hpending => ?_
      rcases List.mem_cons.mp hpending with rfl | hpending
      · exact .inl hseen
      · exact .inr hpending
  | unknown hseen hnone =>
      simp only [List.mem_cons] at hnode ⊢
      tauto
  | enter hseen hfound horder =>
      simp only [List.mem_cons, List.mem_append] at hnode ⊢
      tauto

theorem Explores.turn {roots : List NodeRef} (hexplores : grammar.Explores roots before)
    (hturn : grammar.Turn Node.AnyOrder before after) : grammar.Explores roots after := by
  obtain ⟨hsound, hclosed, hstarts⟩ := hexplores
  have hstarts : ∀ root ∈ roots, root ∈ after.visited ∨ root ∈ after.pending := fun root hroot =>
    hturn.keeps (hstarts root hroot)
  have hkeeps : ∀ node, node ∈ before.visited ∨ node ∈ before.pending →
      node ∈ after.visited ∨ node ∈ after.pending := fun _ => hturn.keeps
  cases hturn with
  | @again node pending visited hseen =>
      refine ⟨fun index hindex => hsound index ?_, fun source target hsource hedge => ?_, hstarts⟩
      · exact hindex.imp_right (List.mem_cons_of_mem _)
      · exact hkeeps _ (hclosed source target hsource hedge)
  | @unknown node pending visited hseen hnode =>
      refine ⟨fun index hindex => hsound index ?_, fun source target hsource hedge => ?_, hstarts⟩
      · simp only [List.mem_cons] at hindex ⊢
        tauto
      · rcases List.mem_cons.mp hsource with rfl | hsource
        · obtain ⟨found, key, hfound, -⟩ := hedge
          simp [node?, hfound] at hnode
        · exact hkeeps _ (hclosed source target hsource hedge)
  | @enter node pending visited found order hseen hnode horder =>
      obtain ⟨index, rfl, hfound⟩ := node?_eq_some_iff.mp hnode
      have hbound := (Array.getElem?_eq_some_iff.mp hfound).1
      have hedges : ∀ target, grammar.Edge index target ↔ target ∈ order := by
        intro target
        rw [horder.mem_iff, grammar.edge_iff_mem_childIndices hbound,
          Array.getElem_eq_iff.mpr hfound]
      refine ⟨fun other hother => ?_, fun source target hsource hedge => ?_, hstarts⟩
      · by_cases hchild : other ∈ order
        · obtain ⟨start, hstart, hreaches⟩ := hsound index (.inr List.mem_cons_self)
          exact ⟨start, hstart, hreaches.tail ((hedges other).mpr hchild)⟩
        · refine hsound other ?_
          simp only [List.mem_cons, List.mem_append, List.mem_map, NodeRef.stored.injEq,
            exists_eq_right] at hother ⊢
          tauto
      · rcases List.mem_cons.mp hsource with hsource | hsource
        · obtain rfl := NodeRef.stored.inj hsource
          exact .inr (List.mem_append_left _
            (List.mem_map_of_mem ((hedges target).mp hedge)))
        · exact hkeeps _ (hclosed source target hsource hedge)

/-- A traversal that is over has visited the places that child edges lead to from its roots. -/
theorem Explores.stored_mem_visited_iff {roots : List NodeRef} {final : Traversal}
    (hexplores : grammar.Explores roots final) (hpending : final.pending = []) (index : Nat) :
    .stored index ∈ final.visited ↔ ∃ start, .stored start ∈ roots ∧ grammar.Reaches start index := by
  obtain ⟨hsound, hclosed, hstarts⟩ := hexplores
  simp only [hpending, List.not_mem_nil, or_false] at hsound hclosed hstarts
  refine ⟨hsound index, ?_⟩
  rintro ⟨start, hstart, hreaches⟩
  induction hreaches with
  | refl => exact hstarts _ hstart
  | tail _ hedge ih => exact hclosed _ _ ih hedge

theorem Explores.of_turns {roots : List NodeRef} {final : Traversal}
    (hturns : Relation.ReflTransGen (grammar.Turn Node.AnyOrder) ⟨roots, []⟩ final) :
    grammar.Explores roots final := by
  induction hturns with
  | refl => exact .start roots
  | tail _ hturn ih => exact ih.turn hturn

/-- In whatever order children come, a traversal stops and has visited the places reachable from
its roots, and perhaps handles without a node. -/
theorem traverses_anyOrder (grammar : Grammar R) (roots : List NodeRef) :
    grammar.Traverses Node.AnyOrder roots fun visited =>
      ∀ index, index ∈ knownPlaces visited ∧ index < grammar.nodes.size ↔
        index ∈ grammar.reachable roots where
  stops := turn_wellFounded fun _ _ horder => horder
  finished := fun _ => pending_eq_nil_of_no_turn fun node => ⟨node.childIndices, .refl _⟩
  visits := fun final hturns hpending index => by
    rw [mem_knownPlaces_iff, (Explores.of_turns hturns).stored_mem_visited_iff hpending,
      mem_reachable_iff, and_comm]

/-! ## The order of the walk -/

/-- The places of the stored nodes among handles, in order. -/
def storedPlaces (grammar : Grammar R) (nodes : List NodeRef) : List Nat :=
  (knownPlaces nodes).filter fun index => decide (index < grammar.nodes.size)

@[simp] theorem knownPlaces_stored_cons (index : Nat) (nodes : List NodeRef) :
    knownPlaces (.stored index :: nodes) = index :: knownPlaces nodes := rfl

theorem knownPlaces_map_stored_append (places : List Nat) (nodes : List NodeRef) :
    knownPlaces (places.map .stored ++ nodes) = places ++ knownPlaces nodes := by
  induction places with
  | nil => rfl
  | cons place rest ih => simp [ih]

theorem storedPlaces_cons_of_unknown {node : NodeRef} (hnode : grammar.node? node = none)
    (nodes : List NodeRef) : grammar.storedPlaces (node :: nodes) = grammar.storedPlaces nodes := by
  cases node with
  | notFound => rfl
  | stored index =>
      have hsize := Array.getElem?_eq_none_iff.mp hnode
      simp [storedPlaces, Nat.not_lt.mpr hsize]

/-- The walk does nothing at a place that it has seen or that is not stored. -/
theorem visit_cons_of_skipped {index : Nat} {seen : List Nat}
    (hskipped : index < grammar.nodes.size → index ∈ seen) (pending : List Nat) :
    grammar.visit (index :: pending) seen = grammar.visit pending seen := by
  rw [visit]
  by_cases hindex : index < grammar.nodes.size
  · rw [dif_pos hindex, if_pos (hskipped hindex)]
  · rw [dif_neg hindex]

theorem visit_cons_of_entered {index : Nat} {seen : List Nat} {found : Node R}
    (hfound : grammar.nodes[index]? = some found) (hseen : index ∉ seen) (pending : List Nat) :
    grammar.visit (index :: pending) seen =
      grammar.visit (found.childIndices ++ pending) (index :: seen) := by
  obtain ⟨hindex, rfl⟩ := Array.getElem?_eq_some_iff.mp hfound
  rw [visit, dif_pos hindex, if_neg hseen]

/-- A turn in the order of the keys is a step of the walk. -/
theorem Turn.visit_eq (hturn : grammar.Turn Node.KeyOrder before after) :
    grammar.visit (knownPlaces after.pending) (grammar.storedPlaces after.visited) =
      grammar.visit (knownPlaces before.pending) (grammar.storedPlaces before.visited) := by
  cases hturn with
  | @again node pending visited hseen =>
      cases node with
      | notFound => rfl
      | stored index =>
          refine (visit_cons_of_skipped (fun hindex => ?_) _).symm
          exact List.mem_filter.mpr ⟨mem_knownPlaces_iff.mpr hseen, decide_eq_true hindex⟩
  | @unknown node pending visited hseen hnode =>
      rw [storedPlaces_cons_of_unknown hnode]
      cases node with
      | notFound => rfl
      | stored index =>
          have hsize := Array.getElem?_eq_none_iff.mp hnode
          exact (visit_cons_of_skipped (fun hindex => absurd hindex (Nat.not_lt.mpr hsize)) _).symm
  | @enter node pending visited found order hseen hnode horder =>
      obtain ⟨index, rfl, hfound⟩ := node?_eq_some_iff.mp hnode
      obtain rfl : order = found.childIndices := horder
      have hindex := (Array.getElem?_eq_some_iff.mp hfound).1
      have hplace : index ∉ grammar.storedPlaces visited := fun hplace =>
        hseen (mem_knownPlaces_iff.mp (List.mem_filter.mp hplace).1)
      have hvisited : grammar.storedPlaces (.stored index :: visited) =
          index :: grammar.storedPlaces visited := by
        simp [storedPlaces, hindex]
      rw [knownPlaces_map_stored_append, hvisited, knownPlaces_stored_cons,
        visit_cons_of_entered hfound hplace]

theorem visit_eq_of_turns {first final : Traversal}
    (hturns : Relation.ReflTransGen (grammar.Turn Node.KeyOrder) first final) :
    grammar.visit (knownPlaces final.pending) (grammar.storedPlaces final.visited) =
      grammar.visit (knownPlaces first.pending) (grammar.storedPlaces first.visited) := by
  induction hturns with
  | refl => rfl
  | tail _ hturn ih => exact hturn.visit_eq.trans ih

/-- In the order of the keys, a traversal stops and has visited the places in the order of the
walk, and perhaps handles without a node in between. -/
theorem traverses_keyOrder (grammar : Grammar R) (roots : List NodeRef) :
    grammar.Traverses Node.KeyOrder roots fun visited =>
      (grammar.storedPlaces visited).reverse = grammar.reachable roots where
  stops := turn_wellFounded fun _ _ horder => horder.anyOrder
  finished := fun _ => pending_eq_nil_of_no_turn fun node =>
    ⟨node.childIndices, show node.KeyOrder _ from rfl⟩
  visits := fun final hturns hpending => by
    have hwalk := visit_eq_of_turns hturns
    rw [hpending, show knownPlaces [] = [] from rfl, visit] at hwalk
    exact hwalk

end Grammar

end CommandGrammar
