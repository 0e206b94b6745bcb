import CommandGrammar.Proofs.Diagram.Order

/-! # The edges of a flowchart

A flowchart draws an edge for every key of a reachable node. It draws a node's edges once, however
many paths lead to the node, but two keys that lead to the same child give two edges. So an edge from
one node to another stands in it exactly once if and only if exactly one key leads from the first to
the second.
-/

namespace CommandGrammar

variable {R : Type}

/-- The keys of a node that lead to a child. -/
def Node.keysTo (node : Node R) (target : Nat) : List String :=
  (node.childEntries.filter fun entry => decide (entry.2 = target)).map (·.1)

theorem Node.mem_keysTo_iff (node : Node R) (target : Nat) (key : String) :
    key ∈ node.keysTo target ↔ node.child? key = some target := by
  simp [keysTo, node.childEntries_listsChildren.mem_iff]

theorem Node.nodup_keysTo (node : Node R) (target : Nat) : (node.keysTo target).Nodup := by
  have hkeys := node.childEntries_listsChildren.sorted.filter fun entry =>
    decide (entry.2 = target)
  refine List.pairwise_map.mpr (hkeys.imp ?_)
  intro entry other hless hsame
  exact String.lt_irrefl _ (hsame ▸ hless)

/-- The keys that lead from one place to another, none where there is no node. -/
def Grammar.keysBetween (grammar : Grammar R) (source target : Nat) : List String :=
  match grammar.nodes[source]? with
  | some node => node.keysTo target
  | none => []

theorem Grammar.keysBetween_of_stored {grammar : Grammar R} {source : Nat} {node : Node R}
    (hnode : grammar.nodes[source]? = some node) (target : Nat) :
    grammar.keysBetween source target = node.keysTo target := by
  simp [keysBetween, hnode]

theorem Grammar.keysBetween_of_unknown {grammar : Grammar R} {source : Nat}
    (hnode : grammar.nodes[source]? = none) (target : Nat) :
    grammar.keysBetween source target = [] := by
  simp [keysBetween, hnode]

theorem Grammar.mem_keysBetween_iff (grammar : Grammar R) (source target : Nat) (key : String) :
    key ∈ grammar.keysBetween source target ↔
      ∃ node, grammar.nodes[source]? = some node ∧ node.child? key = some target := by
  cases hnode : grammar.nodes[source]? with
  | none => simp [keysBetween_of_unknown hnode]
  | some node => simp [keysBetween_of_stored hnode, node.mem_keysTo_iff]

theorem Grammar.nodup_keysBetween (grammar : Grammar R) (source target : Nat) :
    (grammar.keysBetween source target).Nodup := by
  cases hnode : grammar.nodes[source]? with
  | none => simp [keysBetween_of_unknown hnode]
  | some node => rw [keysBetween_of_stored hnode]; exact node.nodup_keysTo target

/-- The keys from one place to another are one if and only if there is exactly one such key. -/
theorem Grammar.length_keysBetween_eq_one_iff (grammar : Grammar R) (source target : Nat) :
    (grammar.keysBetween source target).length = 1 ↔
      ∃! key, ∃ node, grammar.nodes[source]? = some node ∧ node.child? key = some target := by
  simp only [← mem_keysBetween_iff]
  have hnodup := grammar.nodup_keysBetween source target
  generalize grammar.keysBetween source target = keys at hnodup ⊢
  rw [List.length_eq_one_iff]
  constructor
  · rintro ⟨key, rfl⟩
    exact ⟨key, List.mem_singleton_self key, fun other hother => List.mem_singleton.mp hother⟩
  · rintro ⟨key, hkey, hunique⟩
    exact ⟨key, (List.perm_ext_iff_of_nodup hnodup (List.nodup_singleton key)).mpr
      (fun other => ⟨fun hother => List.mem_singleton.mpr (hunique other hother),
        fun hother => List.mem_singleton.mp hother ▸ hkey⟩) |>.eq_singleton⟩

namespace Diagram

variable {grammar : Grammar R} {roots : List NodeRef} {direction : Direction}

/-- Among the lines of a node there is one edge to a child for each key that leads to it. -/
theorem count_edgeLine_block (source target : Nat) (node : Node R) :
    (block source node).count (edgeLine source target) = (node.keysTo target).length := by
  have hinjective : Function.Injective (edgeLine source) := fun left right hline =>
    (edgeLine_inj.mp hline).2
  have hhead : nodeLine source node ≠ edgeLine source target := fun hline =>
    edgeLine_ne_nodeLine source target source node hline.symm
  rw [block, List.count_cons_of_ne hhead, List.count_map_of_injective _ _ hinjective,
    Node.childIndices, Node.keysTo, List.length_map, List.count, List.countP_map,
    List.countP_eq_length_filter]
  rfl

theorem place_of_edgeLine_mem_block {source target place : Nat} {found : Node R}
    (hline : edgeLine source target ∈ block place found) : place = source := by
  rcases (mem_block_iff _ _ _).mp hline with hsame | ⟨_, _, -, hedge⟩
  · exact absurd hsame (edgeLine_ne_nodeLine _ _ _ _)
  · exact (edgeLine_inj.mp hedge).1.symm

theorem header_ne_edgeLine (direction : Direction) (source target : Nat) :
    header direction ≠ edgeLine source target := by
  intro hline
  exact header_toList_ne direction _ (hline ▸ toList_edgeLine source target)

theorem count_edgeLine_lines (source target : Nat) :
    (lines grammar roots direction).count (edgeLine source target) =
      if source ∈ grammar.reachable roots then (grammar.keysBetween source target).length
      else 0 := by
  rw [lines, List.count_cons_of_ne (header_ne_edgeLine direction source target)]
  cases hnode : grammar.nodes[source]? with
  | some node =>
      rw [count_blocks hnode (grammar.nodup_reachable roots) fun _ _ => place_of_edgeLine_mem_block,
        count_edgeLine_block, Grammar.keysBetween_of_stored hnode]
  | none =>
      have hunreachable : source ∉ grammar.reachable roots := fun hmem =>
        absurd ((grammar.mem_reachable_iff roots source).mp hmem).1
          (Nat.not_lt.mpr (Array.getElem?_eq_none_iff.mp hnode))
      rw [if_neg hunreachable, List.count_eq_zero]
      intro hmem
      have hline : edgeLine source target ∈ lines grammar roots direction :=
        List.mem_cons_of_mem _ hmem
      exact hunreachable (edgeLine_mem_lines_iff.mp hline).1

/-- Every line of a flowchart is its first line, the line of a reachable node or a child edge of
one. An edge from one node to another is written once for each key that leads from the first to the
second, if the first is reachable, and else never; so it is written exactly once if and only if
there is exactly one such key. -/
theorem lines_edges (grammar : Grammar R) (roots : List NodeRef) (direction : Direction) :
    let written := lines grammar roots direction
    render grammar roots direction = String.join (written.map (· ++ "\n")) ∧
      (∀ source target, written.count (edgeLine source target) =
        if source ∈ grammar.reachable roots then (grammar.keysBetween source target).length
        else 0) ∧
      (∀ source target, written.count (edgeLine source target) = 1 ↔
        source ∈ grammar.reachable roots ∧
          ∃! key, ∃ node, grammar.nodes[source]? = some node ∧ node.child? key = some target) ∧
      (∀ index, index ∈ grammar.reachable roots ↔ index < grammar.nodes.size ∧
        ∃ start, .stored start ∈ roots ∧ grammar.Reaches start index) ∧
      ∀ line ∈ written, line = header direction ∨
        ∃ index node, index ∈ grammar.reachable roots ∧ grammar.nodes[index]? = some node ∧
          (line = nodeLine index node ∨
            ∃ key target, node.child? key = some target ∧ line = edgeLine index target) := by
  intro written
  refine ⟨rfl, count_edgeLine_lines, fun source target => ?_, grammar.mem_reachable_iff roots,
    fun line hline => ?_⟩
  · rw [count_edgeLine_lines, ← grammar.length_keysBetween_eq_one_iff]
    by_cases hsource : source ∈ grammar.reachable roots <;> simp [hsource]
  · refine ((mem_lines_iff line).mp hline).imp_right ?_
    rintro ⟨index, node, hindex, hnode, hblock⟩
    exact ⟨index, node, hindex, hnode, (mem_block_iff _ _ _).mp hblock⟩

/-- The edge from `a` to the node that both share is written once, although `a` is a root and
`top` leads to it as well. -/
theorem lines_edges_backEdged :
    backEdged.Reachable ∧
      let written := lines backEdged.grammar [.stored 2, .stored 1] .leftRight
      written.count (edgeLine 1 0) = 1 ∧ edgeLine 1 0 ∈ written ∧
        (edgeLine 1 0 = header .leftRight ∨
          ∃ index node, index ∈ backEdged.grammar.reachable [.stored 2, .stored 1] ∧
            backEdged.grammar.nodes[index]? = some node ∧
              (edgeLine 1 0 = nodeLine index node ∨
                ∃ key target, node.child? key = some target ∧
                  edgeLine 1 0 = edgeLine index target)) := by
  obtain ⟨-, hcount, -, -, hkinds⟩ :=
    lines_edges backEdged.grammar [.stored 2, .stored 1] .leftRight
  have hreachable : backEdged.grammar.reachable [.stored 2, .stored 1] = [2, 1, 0] :=
    Grammar.reachable_eq_of_visitWithin 9 (by decide)
  have hkeys : backEdged.grammar.keysBetween 1 0 = ["run"] := by decide
  have honce : (lines backEdged.grammar [.stored 2, .stored 1] .leftRight).count (edgeLine 1 0) =
      1 := by
    rw [hcount, hreachable, hkeys]
    rfl
  have hmem := List.count_pos_iff.mp (Nat.lt_of_lt_of_eq Nat.one_pos honce.symm)
  exact ⟨backEdged_reachable, honce, hmem, hkinds _ hmem⟩

/-- A grammar in which two keys of `p` lead to the same child. -/
def doubled : Dispatcher Unit :=
  Dispatcher.afterAll { tokenizer := .delimiter " " }
    [.build (NodeSpec.branch "x"), .build (NodeSpec.branch "p"),
      .attachMany (.stored 1) [("a", .stored 0), ("b", .stored 0)]]

theorem doubled_reachable : doubled.Reachable := (Dispatcher.Reachable.start _).afterAll _

/-- The one edge from `p` to its child is written twice. -/
theorem lines_repeat_edge :
    doubled.Reachable ∧ 1 ∈ doubled.grammar.reachable [.stored 1] ∧ doubled.grammar.Edge 1 0 ∧
      lines doubled.grammar [.stored 1] .leftRight =
        [header .leftRight, "    n1[\"p\"]", edgeLine 1 0, edgeLine 1 0, "    n0[\"x\"]"] ∧
      (lines doubled.grammar [.stored 1] .leftRight).count (edgeLine 1 0) ≠ 1 := by
  have hplaces : doubled.grammar.reachable [.stored 1] = [1, 0] :=
    Grammar.reachable_eq_of_visitWithin 6 (by decide)
  have hlines : lines doubled.grammar [.stored 1] .leftRight =
      [header .leftRight, "    n1[\"p\"]", edgeLine 1 0, edgeLine 1 0, "    n0[\"x\"]"] := by
    rw [lines, hplaces]
    decide
  have hedge : edgeLine 1 0 ∈ lines doubled.grammar [.stored 1] .leftRight := by
    rw [hlines]
    decide
  obtain ⟨hreachable, hchild⟩ := edgeLine_mem_lines_iff.mp hedge
  refine ⟨doubled_reachable, hreachable, hchild, hlines, ?_⟩
  rw [hlines]
  decide

end Diagram

end CommandGrammar
