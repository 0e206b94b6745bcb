import CommandGrammar.Proofs.Dispatch.Frame
import CommandGrammar.Proofs.Grammar.Indexed

/-! # Ways to wire a node

Children can be given to a node as it is built, all at once later, or one by one. The first two
look all children up before they draw an edge, the last looks each of them up when its turn comes;
an edge neither adds nor renames a node, so all three draw the same edges.
-/

namespace CommandGrammar

variable {R : Type}

namespace Grammar

variable {grammar : Grammar R}

/-- Attaches children one by one, each under its own name. A refusal ends it. -/
def attachEach (grammar : Grammar R) (parent : NodeRef) :
    List NodeRef → Except Error (Change R Unit)
  | [] => .ok ⟨(), grammar, []⟩
  | child :: rest => do
    let attached ← grammar.attach parent child
    let final ← attached.grammar.attachEach parent rest
    .ok ⟨(), final.grammar, attached.trace ++ final.trace⟩

/-- Children that come with their own names are nodes of the table. -/
theorem exists_places_of_named {entries : List (String × NodeRef)}
    (hnamed : ∀ entry ∈ entries, (grammar.node? entry.2).map (·.name) = some entry.1) :
    ∃ children : List Nat, (∀ child ∈ children, child < grammar.nodes.size) ∧
      entries = children.map fun child => (grammar.nameAt child, .stored child) := by
  induction entries with
  | nil => exact ⟨[], by simp, rfl⟩
  | cons entry rest ih =>
      obtain ⟨hentry, hrest⟩ := List.forall_mem_cons.mp hnamed
      obtain ⟨children, hbounds, rfl⟩ := ih hrest
      obtain ⟨name, child⟩ := entry
      obtain ⟨node, hnode, rfl⟩ := Option.map_eq_some_iff.mp hentry
      obtain ⟨index, rfl, hindex⟩ := node?_eq_some_iff.mp hnode
      refine ⟨index :: children, List.forall_mem_cons.mpr ⟨?_, hbounds⟩, ?_⟩
      · exact (Array.getElem?_eq_some_iff.mp hindex).1
      · simp only [List.map_cons, nameAt, hindex]

/-- What is attached one by one is wired as it would be at once. -/
theorem attachEach_stored {parent : Nat} {node : Node R} {children : List Nat}
    (hparent : grammar.nodes[parent]? = some node) (hopen : node.isExecutable = false)
    (hbounds : ∀ child ∈ children, child < grammar.nodes.size) :
    grammar.attachEach (.stored parent) (children.map .stored) =
      .ok ⟨(), (grammar.linkNamed parent children).1, (grammar.linkNamed parent children).2⟩ := by
  induction children generalizing grammar node with
  | nil => rfl
  | cons child rest ih =>
      obtain ⟨hchild, hrest⟩ := List.forall_mem_cons.mp hbounds
      let linked := (grammar.link parent (grammar.nameAt child) child).1
      have hsize : linked.nodes.size = grammar.nodes.size := grammar.size_link _ _ _
      have hlinked : linked.nodes[parent]? =
          some (node.insertChild (grammar.nameAt child) child) :=
        getElem?_nodes_link_self hparent
      have hfinal := ih hlinked hopen fun other hother => hsize ▸ hrest other hother
      simp only [List.map_cons, attachEach, attach_of_open hparent hopen hchild, bind, Except.bind,
        linkNamed_cons]
      rw [hfinal]

theorem attachEach_notFound (children : List NodeRef) :
    grammar.attachEach .notFound children = .ok ⟨(), grammar, []⟩ := by
  induction children with
  | nil => rfl
  | cons child rest ih => simp only [attachEach, attach, bind, Except.bind, ih, List.append_nil]

/-- A node without an action is built with known children exactly if it is built without them, and
then the children can be attached to it instead. -/
theorem build_eq_attachEach {spec : NodeSpec R} {children : List Nat} (hopen : spec.action = none)
    (hbounds : ∀ child ∈ children, child < grammar.nodes.size) :
    (∀ error, grammar.build { spec with children := children.map .stored } = .error error ↔
      grammar.build { spec with children := [] } = .error error) ∧
    ∀ bare, grammar.build { spec with children := [] } = .ok bare →
      ∃ attached, bare.grammar.attachEach bare.value (children.map .stored) = .ok attached ∧
        grammar.build { spec with children := children.map .stored } =
          .ok ⟨bare.value, attached.grammar, attached.trace ++ bare.trace⟩ := by
  have hplaces : grammar.places (children.map .stored) = .ok children :=
    places_eq_ok_iff.mpr ⟨rfl, hbounds⟩
  have hnone : grammar.places [] = .ok [] := rfl
  cases htarget : grammar.resolveTarget spec.target with
  | error fault =>
      have hwired :
          grammar.build { spec with children := children.map .stored } = .error fault := by
        simp only [build, hplaces, htarget, bind, Except.bind]
      have hbare : grammar.build { spec with children := [] } = .error fault := by
        simp only [build, hnone, htarget, bind, Except.bind]
      rw [hwired, hbare]
      exact ⟨fun error => Iff.rfl, fun bare hbuilt => by cases hbuilt⟩
  | ok resolved =>
      obtain ⟨store, stores⟩ := resolved
      let pushed : Grammar R := ⟨grammar.nodes.push (spec.bare store), stores⟩
      let size := grammar.nodes.size
      let reported := Event.builtNode (.stored size) spec.name
      have hbuild : ∀ handles places, grammar.places handles = .ok places →
          grammar.build { spec with children := handles } =
            .ok ⟨.stored size, (pushed.linkNamed size places).1,
              (pushed.linkNamed size places).2 ++ [reported]⟩ :=
        fun _ _ hknown => build_of_places hknown htarget
      -- Both put the node at the end; with children, what is left to do is wiring alone.
      rw [hbuild _ _ hplaces, hbuild _ _ hnone]
      refine ⟨fun error => by simp, fun bare hbuilt => ?_⟩
      obtain rfl := Except.ok.inj hbuilt
      have hparent : pushed.nodes[size]? = some (spec.bare store) :=
        Array.getElem?_push_size
      have hidle : (spec.bare store).isExecutable = false := by
        rw [Node.isExecutable, NodeSpec.bare, hopen, Option.isSome_none]
      have hattached := attachEach_stored hparent hidle fun child hchild => by
        rw [Array.size_push]
        exact Nat.lt_succ_of_lt (hbounds child hchild)
      exact ⟨_, hattached, rfl⟩

/-- The ways to wire a node agree. A description without an action is refused with children exactly
if it is refused without them, and with the same error; if it is not refused, then neither is
attaching the children one by one to the node that is built without them, and both leave the same
grammar and the same events. A plain branch, too, comes out the same whether children are attached
to it one by one or all at once under their own names. -/
theorem wiring_paths_agree {entries : List (String × NodeRef)}
    (hnamed : ∀ entry ∈ entries, (grammar.node? entry.2).map (·.name) = some entry.1) :
    (∀ spec : NodeSpec R, spec.action = none →
      (∀ error, grammar.build { spec with children := entries.map (·.2) } = .error error ↔
        grammar.build { spec with children := [] } = .error error) ∧
      ∀ bare, grammar.build { spec with children := [] } = .ok bare →
        ∃ attached, bare.grammar.attachEach bare.value (entries.map (·.2)) = .ok attached ∧
          grammar.build { spec with children := entries.map (·.2) } =
            .ok ⟨bare.value, attached.grammar, attached.trace ++ bare.trace⟩) ∧
    ∀ parent, parent = .notFound ∨ grammar.kind? parent = some .branch →
      ∃ attached, grammar.attachEach parent (entries.map (·.2)) = .ok attached ∧
        grammar.attachMany parent entries = .ok attached := by
  obtain ⟨children, hbounds, rfl⟩ := exists_places_of_named hnamed
  have hhandles : (children.map fun child => (grammar.nameAt child, NodeRef.stored child)).map
      (·.2) = children.map .stored := by
    rw [List.map_map]
    rfl
  rw [hhandles]
  refine ⟨fun spec hopen => build_eq_attachEach hopen hbounds, ?_⟩
  rintro parent (rfl | hparent)
  · exact ⟨_, attachEach_notFound _, rfl⟩
  · obtain ⟨node, hnode, hkind⟩ := Option.map_eq_some_iff.mp hparent
    obtain ⟨index, rfl, hindex⟩ := node?_eq_some_iff.mp hnode
    obtain ⟨hopen, hsilent⟩ := Node.kind_eq_branch_iff.mp hkind
    refine ⟨_, attachEach_stored hindex hopen hbounds, ?_⟩
    have hplaces : grammar.places (children.map .stored) = .ok children :=
      places_eq_ok_iff.mpr ⟨rfl, hbounds⟩
    have hzip : ((children.map fun child => (grammar.nameAt child, NodeRef.stored child)).map
        (·.1)).zip children = children.map fun child => (grammar.nameAt child, child) := by
      rw [List.map_map]
      exact List.map_prod_right_eq_zip.symm
    simp only [attachMany, hindex, hopen, hsilent, hhandles, hplaces, hzip, Bool.false_eq_true,
      if_false, linkNamed]

/-- Children of a capturing node `log` that hold captures, share a name and come twice, and the same
children of a branch `menu`. The store of `log` ends up with everything they hold. -/
theorem wiring_paths_agree_log :
    let grammar := (Dispatcher.strayCaptures.afterAll [.build (.branch "menu")]).grammar
    let entries := [("use", NodeRef.stored 2), (wildcard, .stored 3), ("note", .stored 4),
      (wildcard, .stored 1), ("use", .stored 2)]
    (∃ bare attached, grammar.build (.capturing "log") = .ok bare ∧
      bare.grammar.attachEach bare.value (entries.map (·.2)) = .ok attached ∧
      grammar.build { NodeSpec.capturing "log" with children := entries.map (·.2) } =
        .ok ⟨bare.value, attached.grammar, attached.trace ++ bare.trace⟩ ∧
      attached.grammar.captured ⟨4⟩ = ["bob", "milk"]) ∧
    ∃ attached, grammar.attachEach (.stored 5) (entries.map (·.2)) = .ok attached ∧
      grammar.attachMany (.stored 5) entries = .ok attached := by
  intro grammar entries
  have hnamed : ∀ entry ∈ entries, (grammar.node? entry.2).map (·.name) = some entry.1 := by decide
  obtain ⟨hbuild, hattach⟩ := wiring_paths_agree hnamed
  obtain ⟨attached, hattached, hwired⟩ := (hbuild (.capturing "log") rfl).2 _ rfl
  refine ⟨⟨_, attached, rfl, hattached, hwired, ?_⟩, hattach (.stored 5) (.inr rfl)⟩
  have hcaptured : (grammar.build { NodeSpec.capturing "log" with
      children := entries.map (·.2) }).toOption.map (·.grammar.captured ⟨4⟩) =
        some ["bob", "milk"] := by decide
  rw [hwired] at hcaptured
  exact Option.some.inj hcaptured

end Grammar

end CommandGrammar
