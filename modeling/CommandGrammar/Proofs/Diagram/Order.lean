import CommandGrammar.Proofs.Dispatch.Flowchart
import CommandGrammar.Proofs.Grammar.Preorder
import CommandGrammar.Proofs.Grammar.Traversal
import CommandGrammar.Proofs.Session.Interchange

/-! # The order of a flowchart

A flowchart is its first line and then one block for each node, in the order of the recursive
depth-first preorder from the given roots. The blocks belong to the reachable nodes, each once. The
order in which edges were drawn is not to be seen in it, because children are sorted by their keys.
-/

namespace CommandGrammar

variable {R : Type}

namespace Node

variable (node : Node R)

/-- The entries are the children of a node with their keys, each once and in the order of the code
points of the keys. -/
structure ListsChildren (node : Node R) (entries : List (String × Nat)) : Prop where
  sorted : entries.Pairwise fun entry other => entry.1 < other.1
  mem_iff : ∀ key target, (key, target) ∈ entries ↔ node.child? key = some target

theorem childEntries_listsChildren : node.ListsChildren node.childEntries where
  sorted := by
    have hkeys : node.childEntries.Pairwise fun entry other => compare entry.1 other.1 = .lt :=
      Std.ExtTreeMap.ordered_keys_toList
    exact hkeys.imp fun hcompare => compareOfLessAndEq_eq_lt.mp hcompare
  mem_iff := fun _ _ => Std.ExtTreeMap.mem_toList_iff_getElem?_eq_some

end Node

namespace Grammar

variable {grammar other : Grammar R}

theorem visit_congr (hnodes : grammar.nodes = other.nodes) (pending seen : List Nat) :
    grammar.visit pending seen = other.visit pending seen := by
  obtain ⟨nodes, stores⟩ := grammar
  obtain ⟨_, others⟩ := other
  subst hnodes
  fun_induction visit ⟨nodes, stores⟩ pending seen with
  | case1 seen => rw [visit]
  | case2 next pending seen hnext hmem ih => rw [visit, dif_pos hnext, if_pos hmem, ih]
  | case3 next pending seen hnext hmem ih => rw [visit, dif_pos hnext, if_neg hmem, ih]
  | case4 next pending seen hnext ih => rw [visit, dif_neg hnext, ih]

/-- The places are those of the nodes that child edges lead to from the roots, each once. -/
structure ListsReachable (grammar : Grammar R) (roots : List NodeRef) (places : List Nat) :
    Prop where
  nodup : places.Nodup
  mem_iff : ∀ index, index ∈ places ↔
    index < grammar.nodes.size ∧ ∃ start, .stored start ∈ roots ∧ grammar.Reaches start index

theorem preorderFrom_listsReachable (grammar : Grammar R) (roots : List NodeRef) :
    grammar.ListsReachable roots (grammar.preorderFrom roots) := by
  rw [← reachable_eq_preorderFrom]
  exact ⟨grammar.nodup_reachable roots, grammar.mem_reachable_iff roots⟩

end Grammar

namespace Diagram

variable {grammar other : Grammar R} {roots : List NodeRef} {direction : Direction}

theorem lines_eq_preorder (grammar : Grammar R) (roots : List NodeRef) (direction : Direction) :
    lines grammar roots direction =
      header direction :: blocks grammar (grammar.preorderFrom roots) := by
  rw [lines, Grammar.reachable_eq_preorderFrom]

/-- A flowchart is a matter of the nodes alone. -/
theorem render_congr (hnodes : grammar.nodes = other.nodes) (roots : List NodeRef)
    (direction : Direction) : render grammar roots direction = render other roots direction := by
  have hreachable : grammar.reachable roots = other.reachable roots :=
    Grammar.visit_congr hnodes _ _
  rw [render, render, lines, lines, hreachable, blocks, blocks, hnodes]

theorem blocks_cons_of_stored {place : Nat} {found : Node R}
    (hfound : grammar.nodes[place]? = some found) (rest : List Nat) :
    blocks grammar (place :: rest) = block place found ++ blocks grammar rest := by
  simp [blocks, hfound]

theorem blocks_cons_of_unknown {place : Nat} (hfound : grammar.nodes[place]? = none)
    (rest : List Nat) : blocks grammar (place :: rest) = blocks grammar rest := by
  simp [blocks, hfound]

/-- A line that stands in the block of one node only is written as often as it stands there. -/
theorem count_blocks {line : String} {index : Nat} {node : Node R}
    (hnode : grammar.nodes[index]? = some node) {places : List Nat} (hnodup : places.Nodup)
    (howner : ∀ place, ∀ found : Node R, line ∈ block place found → place = index) :
    (blocks grammar places).count line =
      if index ∈ places then (block index node).count line else 0 := by
  induction places with
  | nil => rfl
  | cons place rest ih =>
      obtain ⟨hplace, hrest⟩ := List.nodup_cons.mp hnodup
      cases hfound : grammar.nodes[place]? with
      | none =>
          have hother : index ≠ place := by
            rintro rfl
            simp [hnode] at hfound
          rw [blocks_cons_of_unknown hfound, ih hrest]
          simp [hother]
      | some found =>
          rw [blocks_cons_of_stored hfound, List.count_append, ih hrest]
          by_cases hother : index = place
          · subst hother
            obtain rfl := Option.some.inj (hnode.symm.trans hfound)
            simp [hplace]
          · have hforeign : (block place found).count line = 0 :=
              List.count_eq_zero.mpr fun hmem => hother (howner place found hmem).symm
            simp [hforeign, hother]

/-! ## The lines of nodes -/

theorem count_nodeLine_block (index place : Nat) (node found : Node R) :
    (block place found).count (nodeLine index node) =
      if nodeLine place found = nodeLine index node then 1 else 0 := by
  have hedges : (found.childIndices.map (edgeLine place)).count (nodeLine index node) = 0 := by
    refine List.count_eq_zero.mpr fun hmem => ?_
    obtain ⟨target, -, hline⟩ := List.mem_map.mp hmem
    exact edgeLine_ne_nodeLine _ _ _ _ hline
  rw [block, List.count_cons, hedges]
  simp

theorem place_of_nodeLine_mem_block {index place : Nat} {node found : Node R}
    (hline : nodeLine index node ∈ block place found) : place = index := by
  rcases (mem_block_iff _ _ _).mp hline with hsame | ⟨_, _, -, hedge⟩
  · exact (place_of_nodeLine hsame).symm
  · exact absurd hedge.symm (edgeLine_ne_nodeLine _ _ _ _)

theorem header_ne_nodeLine (direction : Direction) (index : Nat) (node : Node R) :
    header direction ≠ nodeLine index node := by
  intro hline
  obtain ⟨_, _, -, hnode⟩ := exists_toList_nodeLine index node
  exact header_toList_ne direction _ (hline ▸ hnode)

theorem index_mem_of_nodeLine_mem_lines {index : Nat} {node : Node R}
    (hline : nodeLine index node ∈ lines grammar roots direction) :
    index ∈ grammar.reachable roots := by
  rcases (mem_lines_iff _).mp hline with hheader | ⟨place, found, hplace, -, hblock⟩
  · exact absurd hheader.symm (header_ne_nodeLine direction index node)
  · exact place_of_nodeLine_mem_block hblock ▸ hplace

/-- The line of a stored node is written once if the node is reachable, and else never. -/
theorem count_nodeLine_lines {index : Nat} {node : Node R}
    (hnode : grammar.nodes[index]? = some node) :
    (lines grammar roots direction).count (nodeLine index node) =
      if index ∈ grammar.reachable roots then 1 else 0 := by
  rw [lines, List.count_cons, count_blocks hnode (grammar.nodup_reachable roots)
    fun _ _ => place_of_nodeLine_mem_block, count_nodeLine_block]
  simp [header_ne_nodeLine]

theorem block_eq (index : Nat) (node : Node R) :
    block index node =
      nodeLine index node :: node.childEntries.map fun entry => edgeLine index entry.2 := by
  rw [block, Node.childIndices, List.map_map]
  rfl

/-- The flowchart from some handles is its first line and then, for every node in the recursive
depth-first preorder from these handles, the line of the node and one line for each of its
children in the order of their keys. A loop with a stack that marks handles when it takes them comes
to this order and stops, also on cyclic grammars. The nodes with a block are those that child edges
lead to from the handles, each has one, and no other line reads like the line of a node. In which
order edges were drawn makes no difference. -/
theorem render_eq_preorder (grammar : Grammar R) (roots : List NodeRef) (direction : Direction) :
    let places := grammar.preorderFrom roots
    let written := header direction :: blocks grammar places
    render grammar roots direction = String.join (written.map (· ++ "\n")) ∧
      (∀ index, ∀ node : Node R, node.ListsChildren node.childEntries ∧ block index node =
        nodeLine index node :: node.childEntries.map fun entry => edgeLine index entry.2) ∧
      grammar.Traverses Node.KeyOrder roots
        (fun visited => (grammar.storedPlaces visited).reverse = places) ∧
      grammar.ListsReachable roots places ∧
      (∀ index node, grammar.nodes[index]? = some node →
        written.count (nodeLine index node) = if index ∈ places then 1 else 0) ∧
      (∀ index, ∀ node : Node R, nodeLine index node ∈ written → index ∈ places) ∧
      ∀ edges others : List (Nat × String × Nat), edges.Perm others →
        (edges.map fun edge => (edge.1, edge.2.1)).Nodup →
          render (grammar.linkEach edges) roots direction =
            render (grammar.linkEach others) roots direction := by
  intro places written
  have hplaces : grammar.reachable roots = places := grammar.reachable_eq_preorderFrom roots
  have hwritten : lines grammar roots direction = written :=
    lines_eq_preorder grammar roots direction
  refine ⟨by rw [render, hwritten],
    fun index node => ⟨node.childEntries_listsChildren, block_eq index node⟩,
    hplaces ▸ grammar.traverses_keyOrder roots, grammar.preorderFrom_listsReachable roots,
    fun index node hnode => ?_, fun index node hline => ?_, fun edges others hperm hkeys => ?_⟩
  · rw [← hwritten, ← hplaces]
    exact count_nodeLine_lines hnode
  · rw [← hwritten] at hline
    rw [← hplaces]
    exact index_mem_of_nodeLine_mem_lines hline
  · exact render_congr (grammar.nodes_linkEach_perm hperm hkeys) roots direction

/-- A grammar in which `top` leads to `a` and `a` leads back, and both lead to one node that is
shown under an alias with quotation marks. -/
def backEdged : Dispatcher Unit :=
  Dispatcher.afterAll { tokenizer := .delimiter " " }
    [.build { NodeSpec.executable "run" (fun _ => ()) with aliasName := some "go \"now\"" },
      .build { NodeSpec.branch "a" with children := [.stored 0] },
      .build { NodeSpec.branch "top" with children := [.stored 0, .stored 1] },
      .attach (.stored 1) (.stored 2)]

theorem backEdged_reachable : backEdged.Reachable := (Dispatcher.Reachable.start _).afterAll _

/-- Below `top` the walk comes to `a` first and from there to the node that both share, although
`top` put it on the stack before. Two edges from `a` are drawn in either order. -/
theorem render_eq_preorder_backEdged :
    backEdged.Reachable ∧
      render backEdged.grammar [.stored 2, .notFound, .stored 9, .stored 2] .bottomTop =
        "graph BT\n    n2[\"top\"]\n    n2 --> n1\n    n2 --> n0\n    n1[\"a\"]\n" ++
          "    n1 --> n0\n    n1 --> n2\n    n0([\"go #quot;now#quot;\"])\n" ∧
      render (backEdged.grammar.linkEach [(1, "x", 1), (1, "^_^", 0)]) [.stored 1] .leftRight =
        render (backEdged.grammar.linkEach [(1, "^_^", 0), (1, "x", 1)]) [.stored 1] .leftRight := by
  obtain ⟨htext, -⟩ := render_eq_preorder backEdged.grammar
    [.stored 2, .notFound, .stored 9, .stored 2] .bottomTop
  obtain ⟨-, -, -, -, -, -, hdrawn⟩ := render_eq_preorder backEdged.grammar [.stored 1] .leftRight
  refine ⟨backEdged_reachable, ?_, hdrawn _ _ (.swap _ _ _) (by decide)⟩
  have hreachable : backEdged.grammar.reachable [.stored 2, .notFound, .stored 9, .stored 2] =
      [2, 1, 0] := Grammar.reachable_eq_of_visitWithin 9 (by decide)
  rw [htext, ← Grammar.reachable_eq_preorderFrom, hreachable]
  decide

end Diagram

end CommandGrammar
