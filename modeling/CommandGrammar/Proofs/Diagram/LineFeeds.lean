import CommandGrammar.Proofs.Diagram.Order

/-! # Line feeds in the names of a flowchart

Every line of a flowchart is closed by a line feed. A label keeps the line feeds of the name that it
shows, so a reader who cuts the text at its line feeds finds more than the lines that were written:
one piece more for each line feed in the name of a reachable node. What stands between two line feeds
of a name can read like a line of its own.
-/

namespace CommandGrammar.Diagram

variable {R : Type}

/-- The pieces of a text between its line feeds. -/
def pieces (text : String) : List String := (text.toList.splitOn '\n').map String.ofList

theorem length_splitOn {α : Type} [BEq α] [LawfulBEq α] (separator : α) (text : List α) :
    (text.splitOn separator).length = text.count separator + 1 := by
  induction text with
  | nil => rfl
  | cons first rest ih =>
      rw [List.splitOn_cons_eq_if_modifyHead]
      by_cases hfirst : first = separator
      · subst hfirst
        simp [ih]
      · simp [hfirst, ih]

theorem length_pieces (text : String) :
    (pieces text).length = text.toList.count '\n' + 1 := by
  rw [pieces, List.length_map, length_splitOn]

theorem pieces_of_not_mem {text : String} (htext : '\n' ∉ text.toList) : pieces text = [text] := by
  simp [pieces, List.splitOn_eq_singleton htext]

theorem pieces_append (line rest : String) :
    pieces (line ++ "\n" ++ rest) = pieces line ++ pieces rest := by
  have hcut : (line ++ "\n" ++ rest).toList = line.toList ++ '\n' :: rest.toList := by simp
  rw [pieces, hcut, List.splitOn_append_cons_self, List.map_append, pieces, pieces]

/-- A text of closed lines falls into the pieces of its lines, and an empty one behind them. -/
theorem pieces_join (written : List String) :
    pieces (String.join (written.map (· ++ "\n"))) = written.flatMap pieces ++ [""] := by
  induction written with
  | nil => rfl
  | cons line rest ih =>
      rw [List.map_cons, String.join_cons, pieces_append, ih, List.flatMap_cons, List.append_assoc]

theorem length_flatMap_pieces (written : List String) :
    (written.flatMap pieces).length =
      written.length + (written.flatMap String.toList).count '\n' := by
  induction written with
  | nil => rfl
  | cons line rest ih =>
      rw [List.flatMap_cons, List.flatMap_cons, List.length_append, List.length_cons,
        List.count_append, length_pieces, ih]
      omega

/-! ## Where line feeds come from -/

theorem count_identifier (index : Nat) : (identifier index).toList.count '\n' = 0 := by
  refine List.count_eq_zero.mpr fun hmem => ?_
  have hdigit : '\n' ∈ Nat.toDigits 10 index := by
    simpa [identifier, toString, Nat.toList_repr] using hmem
  have := Nat.isDigit_of_mem_toDigits (by decide) (by decide) hdigit
  simp at this

theorem count_escapeLabel (label : String) :
    (escapeLabel label).toList.count '\n' = label.toList.count '\n' := by
  rw [escapeLabel, String.toList_ofList]
  induction label.toList with
  | nil => rfl
  | cons c rest ih =>
      rw [List.flatMap_cons, List.count_append, ih, List.count_cons]
      by_cases hquote : c = '"'
      · subst hquote
        simp
      · simp [hquote, List.count_singleton, Nat.add_comm]

theorem count_header (direction : Direction) : (header direction).toList.count '\n' = 0 := by
  cases direction <;> rfl

theorem count_edgeLine (source target : Nat) :
    (edgeLine source target).toList.count '\n' = 0 := by
  simp [edgeLine, String.toList_append, count_identifier]

/-- The line of a node has the line feeds of the name that it shows. -/
theorem count_nodeLine (index : Nat) (node : Node R) :
    (nodeLine index node).toList.count '\n' = node.displayName.toList.count '\n' := by
  unfold nodeLine
  dsimp only
  split <;> simp [String.toList_append, count_identifier, count_escapeLabel]

/-! ## Flowcharts -/

section Flowcharts

variable {grammar : Grammar R} {roots : List NodeRef} {direction : Direction}

/-- The names that the nodes at the given places show. -/
def shownNames (grammar : Grammar R) (places : List Nat) : List String :=
  places.filterMap fun index => grammar.nodes[index]?.map (·.displayName)

theorem mem_shownNames_iff {places : List Nat} {name : String} :
    name ∈ shownNames grammar places ↔ ∃ index node, index ∈ places ∧
      grammar.nodes[index]? = some node ∧ node.displayName = name := by
  simp only [shownNames, List.mem_filterMap, Option.map_eq_some_iff]
  grind

theorem count_block (index : Nat) (node : Node R) :
    ((block index node).flatMap String.toList).count '\n' =
      node.displayName.toList.count '\n' := by
  have hedges : ((node.childIndices.map (edgeLine index)).flatMap String.toList).count '\n' = 0 := by
    induction node.childIndices with
    | nil => rfl
    | cons target rest ih =>
        rw [List.map_cons, List.flatMap_cons, List.count_append, count_edgeLine, ih]
  rw [block, List.flatMap_cons, List.count_append, count_nodeLine, hedges, Nat.add_zero]

theorem count_newline_blocks (grammar : Grammar R) (places : List Nat) :
    ((blocks grammar places).flatMap String.toList).count '\n' =
      ((shownNames grammar places).flatMap String.toList).count '\n' := by
  induction places with
  | nil => rfl
  | cons place rest ih =>
      cases hfound : grammar.nodes[place]? with
      | none =>
          have hnames : shownNames grammar (place :: rest) = shownNames grammar rest := by
            simp [shownNames, hfound]
          rw [blocks_cons_of_unknown hfound, ih, hnames]
      | some found =>
          have hnames : shownNames grammar (place :: rest) =
              found.displayName :: shownNames grammar rest := by
            simp [shownNames, hfound]
          rw [blocks_cons_of_stored hfound, List.flatMap_append, List.count_append, count_block, ih,
            hnames, List.flatMap_cons, List.count_append]

theorem length_pieces_render (grammar : Grammar R) (roots : List NodeRef) (direction : Direction) :
    (pieces (render grammar roots direction)).length =
      (lines grammar roots direction).length + 1 +
        ((shownNames grammar (grammar.reachable roots)).flatMap String.toList).count '\n' := by
  rw [render, pieces_join, List.length_append, length_flatMap_pieces, lines, List.flatMap_cons,
    List.count_append, count_header, count_newline_blocks, List.length_singleton]
  omega

theorem not_mem_of_mem_lines
    (hnames : ∀ name ∈ shownNames grammar (grammar.reachable roots), '\n' ∉ name.toList)
    {line : String} (hline : line ∈ lines grammar roots direction) : '\n' ∉ line.toList := by
  rw [← List.count_eq_zero]
  rcases (mem_lines_iff _).mp hline with rfl | ⟨index, node, hindex, hnode, hblock⟩
  · exact count_header direction
  · rcases (mem_block_iff _ _ _).mp hblock with rfl | ⟨_, target, -, rfl⟩
    · rw [count_nodeLine, List.count_eq_zero]
      exact hnames _ (mem_shownNames_iff.mpr ⟨index, node, hindex, hnode, rfl⟩)
    · exact count_edgeLine index target

/-- Cut at its line feeds, a flowchart falls into its lines exactly if no name in it has one. -/
theorem pieces_render_eq_lines_iff :
    pieces (render grammar roots direction) = lines grammar roots direction ++ [""] ↔
      ∀ name ∈ shownNames grammar (grammar.reachable roots), '\n' ∉ name.toList := by
  constructor
  · intro hpieces name hname hfeed
    have hlength := length_pieces_render grammar roots direction
    rw [hpieces, List.length_append, List.length_singleton] at hlength
    have hcount : ((shownNames grammar (grammar.reachable roots)).flatMap String.toList).count
        '\n' = 0 := by omega
    exact List.count_eq_zero.mp hcount (List.mem_flatMap.mpr ⟨name, hname, hfeed⟩)
  · intro hnames
    have hlines : (lines grammar roots direction).flatMap pieces =
        (lines grammar roots direction).flatMap fun line => [line] :=
      List.flatMap_congr fun line hline => pieces_of_not_mem (not_mem_of_mem_lines hnames hline)
    rw [render, pieces_join, hlines, List.flatMap_singleton']

/-- Cut at its line feeds, a flowchart falls into the pieces of the lines that were written: the
first line, a line for each reachable node and a line for each of its edges. Behind them is an empty
piece. There is one piece too many for each line feed in the name of a reachable node, so the pieces
are the lines exactly if no such name has a line feed. -/
theorem pieces_render (grammar : Grammar R) (roots : List NodeRef) (direction : Direction) :
    let written := lines grammar roots direction
    let names := shownNames grammar (grammar.reachable roots)
    pieces (render grammar roots direction) = written.flatMap pieces ++ [""] ∧
      (pieces (render grammar roots direction)).length =
        written.length + 1 + (names.flatMap String.toList).count '\n' ∧
      (pieces (render grammar roots direction) = written ++ [""] ↔
        ∀ index node, grammar.nodes[index]? = some node →
          (∃ start, .stored start ∈ roots ∧ grammar.Reaches start index) →
            '\n' ∉ node.displayName.toList) := by
  intro written names
  refine ⟨pieces_join written, length_pieces_render grammar roots direction, ?_⟩
  rw [pieces_render_eq_lines_iff]
  constructor
  · intro hnames index node hnode hreaches
    have hindex := (Array.getElem?_eq_some_iff.mp hnode).1
    have hmem := (grammar.mem_reachable_iff roots index).mpr ⟨hindex, hreaches⟩
    exact hnames _ (mem_shownNames_iff.mpr ⟨index, node, hmem, hnode, rfl⟩)
  · intro hnames name hname
    obtain ⟨index, node, hmem, hnode, rfl⟩ := mem_shownNames_iff.mp hname
    exact hnames index node hnode ((grammar.mem_reachable_iff roots index).mp hmem).2

end Flowcharts

/-- A grammar with one node, which is shown under an alias of several lines. -/
def forging : Dispatcher Unit :=
  Dispatcher.afterAll { tokenizer := .delimiter " " }
    [.build { NodeSpec.branch "a" with aliasName := some "a\n    n0 --> n0\n" }]

theorem forging_reachable : forging.Reachable := (Dispatcher.Reachable.start _).afterAll _

/-- The flowchart of one node without children has two lines, but it is cut into more pieces, and
one of them reads like an edge from the node to itself. -/
theorem render_forges_edge :
    forging.Reachable ∧ (¬ forging.grammar.Edge 0 0) ∧
      lines forging.grammar [.stored 0] .leftRight =
        [header .leftRight, "    n0[\"a\n    n0 --> n0\n\"]"] ∧
      pieces (render forging.grammar [.stored 0] .leftRight) =
        [header .leftRight, "    n0[\"a", edgeLine 0 0, "\"]", ""] ∧
      pieces (render forging.grammar [.stored 0] .leftRight) ≠
        lines forging.grammar [.stored 0] .leftRight ++ [""] := by
  have hreachable : forging.grammar.reachable [.stored 0] = [0] :=
    Grammar.reachable_eq_of_visitWithin 6 (by decide)
  have hlines : lines forging.grammar [.stored 0] .leftRight =
      [header .leftRight, "    n0[\"a\n    n0 --> n0\n\"]"] := by
    rw [lines, hreachable]
    decide
  have hpieces : pieces (render forging.grammar [.stored 0] .leftRight) =
      [header .leftRight, "    n0[\"a", edgeLine 0 0, "\"]", ""] := by
    rw [render, hlines]
    decide
  refine ⟨forging_reachable, ?_, hlines, hpieces, ?_⟩
  · have hchildren : forging.grammar.nodes[0].childIndices = [] := by decide
    rw [Grammar.edge_iff_mem_childIndices _ (by decide), hchildren]
    exact List.not_mem_nil
  · rw [hpieces, hlines]
    decide

end CommandGrammar.Diagram
