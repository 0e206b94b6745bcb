import CommandGrammar.Proofs.Session.Integrity

/-! # Flowcharts show what commands reach

The walk that draws a flowchart follows child edges, and a command follows tokens. Both come to the
same nodes along the same edges: the key of a child is a token that leads to it, also for a
wildcard child, and every token that leads on follows a child edge. So the nodes drawn are those
that some tokens lead to, and an edge is drawn for every step between them that some token
takes.
-/

namespace CommandGrammar

variable {R : Type}

namespace Diagram

/-! ## Telling lines apart -/

/-- What every line of a node and of an edge begins with. -/
def margin : List Char := "    n".toList

theorem takeWhile_digits (index : Nat) {c : Char} (hc : c.isDigit = false) (rest : List Char) :
    (Nat.toDigits 10 index ++ c :: rest).takeWhile Char.isDigit = Nat.toDigits 10 index := by
  have hdigits : ∀ other ∈ Nat.toDigits 10 index, other.isDigit = true := fun _ hother =>
    Nat.isDigit_of_mem_toDigits (by decide) (by decide) hother
  rw [List.takeWhile_append_of_pos hdigits, List.takeWhile_cons_of_neg (by simp [hc]),
    List.append_nil]

theorem toDigits_inj {left right : Nat} (hdigits : Nat.toDigits 10 left = Nat.toDigits 10 right) :
    left = right := by
  have hread := congrArg (Nat.ofDigitChars 10 · 0) hdigits
  rwa [Nat.ofDigitChars_ten_toDigits, Nat.ofDigitChars_ten_toDigits] at hread

/-- A place ends where its digits end, so lines of different places are different. -/
theorem place_of_line {left right : Nat} {c d : Char} {rest more : List Char}
    (hc : c.isDigit = false) (hd : d.isDigit = false)
    (hline : margin ++ (Nat.toDigits 10 left ++ c :: rest) =
      margin ++ (Nat.toDigits 10 right ++ d :: more)) :
    left = right ∧ c = d ∧ rest = more := by
  have hplace := List.append_cancel_left hline
  have hdigits := congrArg (List.takeWhile Char.isDigit) hplace
  rw [takeWhile_digits left hc, takeWhile_digits right hd] at hdigits
  obtain rfl := toDigits_inj hdigits
  obtain ⟨hhead, htail⟩ := List.cons.inj (List.append_cancel_left hplace)
  exact ⟨rfl, hhead, htail⟩

theorem toList_edgeLine (source target : Nat) :
    (edgeLine source target).toList =
      margin ++ (Nat.toDigits 10 source ++ ' ' :: ("--> n".toList ++ Nat.toDigits 10 target)) := by
  simp [edgeLine, identifier, margin, Nat.toList_repr, toString]

/-- A bracket stands behind the place of a node. -/
theorem exists_toList_nodeLine (index : Nat) (node : Node R) :
    ∃ c rest, (c = '(' ∨ c = '[') ∧
      (nodeLine index node).toList = margin ++ (Nat.toDigits 10 index ++ c :: rest) := by
  let label := "\"" ++ escapeLabel node.displayName ++ "\""
  cases hexecutable : node.isExecutable with
  | true =>
      refine ⟨'(', ("[" ++ label ++ "])").toList, .inl rfl, ?_⟩
      simp [nodeLine, hexecutable, identifier, margin, Nat.toList_repr, toString, label]
  | false =>
      refine ⟨'[', (label ++ "]").toList, .inr rfl, ?_⟩
      simp [nodeLine, hexecutable, identifier, margin, Nat.toList_repr, toString, label]

theorem isDigit_of_bracket {c : Char} (hc : c = '(' ∨ c = '[') : c.isDigit = false := by
  rcases hc with rfl | rfl <;> rfl

theorem place_of_nodeLine {left right : Nat} {node other : Node R}
    (hline : nodeLine left node = nodeLine right other) : left = right := by
  obtain ⟨c, rest, hc, hleft⟩ := exists_toList_nodeLine left node
  obtain ⟨d, more, hd, hright⟩ := exists_toList_nodeLine right other
  rw [hline, hright] at hleft
  exact (place_of_line (isDigit_of_bracket hd) (isDigit_of_bracket hc) hleft).1.symm

theorem edgeLine_ne_nodeLine (source target index : Nat) (node : Node R) :
    edgeLine source target ≠ nodeLine index node := by
  intro hline
  obtain ⟨c, rest, hc, hnode⟩ := exists_toList_nodeLine index node
  rw [← hline, toList_edgeLine] at hnode
  obtain ⟨-, rfl, -⟩ := place_of_line rfl (isDigit_of_bracket hc) hnode
  rcases hc with hc | hc <;> cases hc

theorem edgeLine_inj {source target start stop : Nat} :
    edgeLine source target = edgeLine start stop ↔ source = start ∧ target = stop := by
  constructor
  · intro hline
    have hlist := congrArg String.toList hline
    rw [toList_edgeLine, toList_edgeLine] at hlist
    obtain ⟨hsource, -, hrest⟩ := place_of_line rfl rfl hlist
    exact ⟨hsource, toDigits_inj (List.append_cancel_left hrest)⟩
  · rintro ⟨rfl, rfl⟩
    rfl

/-- The first line is no line of a node or an edge. -/
theorem header_toList_ne (direction : Direction) (rest : List Char) :
    (header direction).toList ≠ margin ++ rest := by
  cases direction <;> simp [header, Direction.code, margin]

/-! ## The lines of a flowchart -/

section Lines

variable {grammar : Grammar R} {roots : List NodeRef} {direction : Direction}

theorem mem_lines_iff (line : String) :
    line ∈ lines grammar roots direction ↔
      line = header direction ∨ ∃ index node, index ∈ grammar.reachable roots ∧
        grammar.nodes[index]? = some node ∧ line ∈ block index node := by
  rw [lines, List.mem_cons, blocks, List.mem_flatMap]
  refine or_congr_right ⟨?_, ?_⟩
  · rintro ⟨index, hindex, hline⟩
    cases hnode : grammar.nodes[index]? with
    | none => simp [hnode] at hline
    | some node => exact ⟨index, node, hindex, hnode, by simpa [hnode] using hline⟩
  · rintro ⟨index, node, hindex, hnode, hline⟩
    exact ⟨index, hindex, by simpa [hnode] using hline⟩

theorem mem_block_iff (line : String) (index : Nat) (node : Node R) :
    line ∈ block index node ↔ line = nodeLine index node ∨
      ∃ key target, node.child? key = some target ∧ line = edgeLine index target := by
  rw [block, List.mem_cons, List.mem_map]
  refine or_congr_right ⟨?_, ?_⟩
  · rintro ⟨target, htarget, rfl⟩
    obtain ⟨key, hkey⟩ := (node.mem_childIndices_iff target).mp htarget
    exact ⟨key, target, hkey, rfl⟩
  · rintro ⟨key, target, hkey, rfl⟩
    exact ⟨target, (node.mem_childIndices_iff target).mpr ⟨key, hkey⟩, rfl⟩

/-- The block of a node stands in the flowchart if and only if the node is reachable. -/
theorem block_infix_lines_iff {index : Nat} {node : Node R}
    (hnode : grammar.nodes[index]? = some node) :
    block index node <:+: lines grammar roots direction ↔ index ∈ grammar.reachable roots := by
  constructor
  · intro hblock
    have hline : nodeLine index node ∈ lines grammar roots direction :=
      hblock.subset (List.mem_cons_self)
    obtain ⟨c, rest, -, hlist⟩ := exists_toList_nodeLine index node
    rcases (mem_lines_iff _).mp hline with hheader | ⟨other, found, hother, -, hfound⟩
    · exact absurd (hheader ▸ hlist) (header_toList_ne direction _)
    · rcases (mem_block_iff _ _ _).mp hfound with hsame | ⟨key, target, -, hedge⟩
      · rwa [place_of_nodeLine hsame]
      · exact absurd hedge.symm (edgeLine_ne_nodeLine _ _ _ _)
  · intro hindex
    obtain ⟨before, behind, hsplit⟩ := List.append_of_mem hindex
    refine ⟨header direction :: blocks grammar before, blocks grammar behind, ?_⟩
    simp [lines, hsplit, blocks, hnode]

/-- An edge is drawn if and only if it leaves a reachable node. -/
theorem edgeLine_mem_lines_iff {source target : Nat} :
    edgeLine source target ∈ lines grammar roots direction ↔
      source ∈ grammar.reachable roots ∧ grammar.Edge source target := by
  rw [mem_lines_iff]
  constructor
  · rintro (hheader | ⟨index, node, hindex, hnode, hline⟩)
    · exact absurd (hheader ▸ toList_edgeLine source target) (header_toList_ne direction _)
    · rcases (mem_block_iff _ _ _).mp hline with hsame | ⟨key, child, hkey, hedge⟩
      · exact absurd hsame (edgeLine_ne_nodeLine _ _ _ _)
      · obtain ⟨rfl, rfl⟩ := edgeLine_inj.mp hedge
        exact ⟨hindex, node, key, hnode, hkey⟩
  · rintro ⟨hsource, node, key, hnode, hkey⟩
    have hline := (mem_block_iff (edgeLine source target) source node).mpr
      (.inr ⟨key, target, hkey, rfl⟩)
    exact .inr ⟨source, node, hsource, hnode, hline⟩

end Lines

end Diagram

namespace Grammar

variable {grammar : Grammar R}

/-! ## Tokens and edges -/

/-- A child is led to by its own key, the wildcard child included. -/
theorem Edge.exists_lookup {source target : Nat} (hedge : grammar.Edge source target) :
    ∃ token, grammar.lookup (.stored source) token = .stored target := by
  obtain ⟨node, key, hnode, hchild⟩ := hedge
  refine ⟨key, ?_⟩
  have hstep : node.step? key = some (target, key == wildcard) := by
    rw [Node.step?, hchild]
  simp [lookup, node?, hnode, hstep]

theorem WellFormed.edge_iff_exists_lookup (hwf : grammar.WellFormed) {source target : Nat} :
    grammar.Edge source target ↔
      ∃ token, grammar.lookup (.stored source) token = .stored target := by
  refine ⟨Edge.exists_lookup, ?_⟩
  rintro ⟨token, hlookup⟩
  exact hwf.edge_of_lookup hlookup

/-- Tokens lead from one node to another if and only if child edges do. -/
theorem WellFormed.reaches_iff_exists_foldl (hwf : grammar.WellFormed) {start index : Nat} :
    grammar.Reaches start index ↔
      ∃ tokens : List String, tokens.foldl grammar.lookup (.stored start) = .stored index := by
  constructor
  · intro hreaches
    induction hreaches with
    | refl => exact ⟨[], rfl⟩
    | tail _ hedge ih =>
        obtain ⟨tokens, htokens⟩ := ih
        obtain ⟨token, hlookup⟩ := hedge.exists_lookup
        exact ⟨tokens ++ [token], by rw [List.foldl_append, htokens]; exact hlookup⟩
  · rintro ⟨tokens, htokens⟩
    induction tokens generalizing start with
    | nil =>
        obtain rfl := NodeRef.stored.inj htokens
        exact .refl
    | cons token rest ih =>
        rw [List.foldl_cons] at htokens
        cases hlookup : grammar.lookup (.stored start) token with
        | notFound =>
            rw [hlookup, foldl_lookup_notFound] at htokens
            cases htokens
        | stored next =>
            rw [hlookup] at htokens
            exact .head (hwf.edge_of_lookup hlookup) (ih htokens)

end Grammar

namespace Dispatcher

variable {dispatcher : Dispatcher R}

theorem entry_eq_stored_iff {name : String} {index : Nat} :
    dispatcher.entry name = .stored index ↔ dispatcher.entries[name]? = some index := by
  unfold entry
  cases dispatcher.entries[name]? <;> simp

theorem stored_mem_entries_iff {index : Nat} :
    .stored index ∈ dispatcher.commands.map dispatcher.entry ↔
      ∃ name, dispatcher.entry name = .stored index := by
  rw [List.mem_map]
  constructor
  · rintro ⟨name, -, hentry⟩
    exact ⟨name, hentry⟩
  · rintro ⟨name, hentry⟩
    have hname : name ∈ dispatcher.entries :=
      Std.ExtTreeMap.mem_iff_isSome_getElem?.mpr (by simp [entry_eq_stored_iff.mp hentry])
    exact ⟨name, by simpa [commands] using hname, hentry⟩

/-- Some tokens lead to a node if and only if it is reachable from an entry. -/
theorem Reachable.exists_resolve_iff (hreach : dispatcher.Reachable) {index : Nat} :
    (∃ tokens, dispatcher.resolve tokens = .stored index) ↔
      index ∈ dispatcher.grammar.reachable (dispatcher.commands.map dispatcher.entry) := by
  have hwf := hreach.wellFormed
  rw [Grammar.mem_reachable_iff]
  constructor
  · rintro ⟨tokens, htokens⟩
    cases tokens with
    | nil => cases htokens
    | cons first rest =>
        rw [resolve] at htokens
        cases hentry : dispatcher.entry first with
        | notFound =>
            rw [hentry, Grammar.foldl_lookup_notFound] at htokens
            cases htokens
        | stored start =>
            rw [hentry] at htokens
            have hreaches := hwf.reaches_iff_exists_foldl.mpr ⟨rest, htokens⟩
            refine ⟨?_, start, stored_mem_entries_iff.mpr ⟨first, hentry⟩, hreaches⟩
            -- The last edge leads to a stored node, and without edges the entry is one.
            rcases Relation.ReflTransGen.cases_tail hreaches with rfl | ⟨source, -, hedge⟩
            · exact hreach.entriesStored first _ (entry_eq_stored_iff.mp hentry)
            · exact hwf.children_stored source index hedge
  · rintro ⟨-, start, hstart, hreaches⟩
    obtain ⟨name, hentry⟩ := stored_mem_entries_iff.mp hstart
    obtain ⟨tokens, htokens⟩ := hwf.reaches_iff_exists_foldl.mp hreaches
    exact ⟨name :: tokens, by rw [resolve, hentry, htokens]⟩

/-- The flowchart of a reachable dispatcher shows what commands reach. Its lines hold the block of
the node at a place if and only if some tokens lead there, and an edge between two places if and
only if some tokens lead to the first and one token leads on from there to the second. The position
reached when nothing matches is no node and has no place. -/
theorem Reachable.diagram_shows_resolved (hreach : dispatcher.Reachable)
    (direction : Diagram.Direction) :
    let lines := Diagram.lines dispatcher.grammar (dispatcher.commands.map dispatcher.entry)
      direction
    dispatcher.diagram direction = String.join (lines.map (· ++ "\n")) ∧
      (∀ index, (∃ node, dispatcher.grammar.nodes[index]? = some node ∧
          Diagram.block index node <:+: lines) ↔
        ∃ tokens, dispatcher.resolve tokens = .stored index) ∧
      ∀ source target, Diagram.edgeLine source target ∈ lines ↔
        (∃ tokens, dispatcher.resolve tokens = .stored source) ∧
          ∃ token, dispatcher.grammar.lookup (.stored source) token = .stored target := by
  intro lines
  refine ⟨rfl, fun index => ?_, fun source target => ?_⟩
  · rw [hreach.exists_resolve_iff]
    constructor
    · rintro ⟨node, hnode, hblock⟩
      exact (Diagram.block_infix_lines_iff hnode).mp hblock
    · intro hindex
      have hbound := ((Grammar.mem_reachable_iff _ _ _).mp hindex).1
      have hnode := Array.getElem?_eq_getElem hbound
      exact ⟨_, hnode, (Diagram.block_infix_lines_iff hnode).mpr hindex⟩
  · rw [hreach.exists_resolve_iff, ← hreach.wellFormed.edge_iff_exists_lookup]
    exact Diagram.edgeLine_mem_lines_iff

/-- Below `use` any token leads to the wildcard child, so the edge to it is drawn. -/
theorem diagram_shows_resolved_use :
    nameShower.Reachable ∧
      let lines := Diagram.lines nameShower.grammar (nameShower.commands.map nameShower.entry)
        .leftRight
      (∃ node, nameShower.grammar.nodes[1]? = some node ∧ Diagram.block 1 node <:+: lines) ∧
        Diagram.edgeLine 2 1 ∈ lines := by
  obtain ⟨-, hnodes, hedges⟩ := nameShower_reachable.diagram_shows_resolved .leftRight
  have huse : nameShower.resolve ["use"] = .stored 2 := by decide
  have hbob : nameShower.resolve ["use", "bob"] = .stored 1 := by decide
  refine ⟨nameShower_reachable, (hnodes 1).mpr ⟨_, hbob⟩, ?_⟩
  exact (hedges 2 1).mpr ⟨⟨_, huse⟩, "bob", by decide⟩

end Dispatcher

end CommandGrammar
