import CommandGrammar.Proofs.Grammar.Reachability

/-! # The walk in recursive order

The recursive depth-first preorder lists a place, then whatever lies below its children, and only
then goes on to the next place; what is listed already is passed over. The walk with its list of
pending places comes to the same order, because it works off what it puts in front before it comes
back to what was pending already.
-/

namespace CommandGrammar.Grammar

variable {R : Type} (grammar : Grammar R)

/-- The recursive depth-first preorder below the given places, behind what is listed already. A
place that is not listed yet comes first, then what lies below its children in the order of their
keys, and then the places beside it. -/
def preorder (grammar : Grammar R) (listed : List Nat) :
    List Nat → { after : List Nat // listed ⊆ after }
  | [] => ⟨listed, List.Subset.refl _⟩
  | place :: beside =>
    if hplace : place < grammar.nodes.size then
      if hlisted : place ∈ listed then preorder grammar listed beside
      else
        let below := preorder grammar (listed ++ [place]) grammar.nodes[place].childIndices
        let all := preorder grammar below.1 beside
        ⟨all.1, fun _ hmem => all.2 (below.2 (List.mem_append_left _ hmem))⟩
    else preorder grammar listed beside
termination_by places => (grammar.unseen listed, places.length)
decreasing_by
  · exact Prod.Lex.right _ (by simp)
  · exact Prod.Lex.left _ _ (unseen_lt hplace hlisted (by simp) (by simp))
  · exact Prod.Lex.left _ _ (unseen_lt hplace hlisted (below.2 (by simp))
      fun _ hmem => below.2 (List.mem_append_left _ hmem))
  · exact Prod.Lex.right _ (by simp)

/-- The preorder below the nodes of the given handles. -/
def preorderFrom (grammar : Grammar R) (roots : List NodeRef) : List Nat :=
  (grammar.preorder [] (knownPlaces roots)).1

/-- The walk works off the places in front before it comes to those behind them. -/
theorem visit_append (front behind seen : List Nat) :
    grammar.visit (front ++ behind) seen =
      grammar.visit behind (grammar.visit front seen).reverse := by
  fun_induction visit grammar front seen with
  | case1 seen => simp
  | case2 next front seen hnext hmem ih =>
      rw [List.cons_append, visit, dif_pos hnext, if_pos hmem, ih]
  | case3 next front seen hnext hmem ih =>
      rw [List.cons_append, visit, dif_pos hnext, if_neg hmem, ← List.append_assoc, ih]
  | case4 next front seen hnext ih =>
      rw [List.cons_append, visit, dif_neg hnext, ih]

/-- The walk lists the places in preorder. -/
theorem visit_eq_preorder (listed places : List Nat) :
    grammar.visit places listed.reverse = (grammar.preorder listed places).1 := by
  fun_induction preorder grammar listed places with
  | case1 listed => rw [visit, List.reverse_reverse]
  | case2 listed place beside hplace hlisted ih =>
      rw [visit, dif_pos hplace, if_pos (List.mem_reverse.mpr hlisted), ih]
  | case3 listed place beside hplace hlisted below all ihBelow ihBeside =>
      -- What lies below the place is worked off first, and what it listed is passed on.
      rw [visit, dif_pos hplace, if_neg (mt List.mem_reverse.mp hlisted), visit_append]
      rw [List.reverse_append, List.reverse_singleton] at ihBelow
      rw [show place :: listed.reverse = [place] ++ listed.reverse from rfl, ihBelow, ihBeside]
  | case4 listed place beside hplace ih =>
      rw [visit, dif_neg hplace, ih]

theorem reachable_eq_preorderFrom (roots : List NodeRef) :
    grammar.reachable roots = grammar.preorderFrom roots :=
  grammar.visit_eq_preorder [] (knownPlaces roots)

theorem nodup_visit {pending seen : List Nat} (hseen : seen.Nodup) :
    (grammar.visit pending seen).Nodup := by
  fun_induction visit grammar pending seen with
  | case1 seen => exact seen.reverse_perm.nodup_iff.mpr hseen
  | case2 next pending seen hnext hmem ih => exact ih hseen
  | case3 next pending seen hnext hmem ih => exact ih (List.nodup_cons.mpr ⟨hmem, hseen⟩)
  | case4 next pending seen hnext ih => exact ih hseen

theorem nodup_reachable (roots : List NodeRef) : (grammar.reachable roots).Nodup :=
  grammar.nodup_visit List.nodup_nil

end CommandGrammar.Grammar
