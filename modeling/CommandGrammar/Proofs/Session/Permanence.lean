import CommandGrammar.Proofs.Grammar.Appending
import CommandGrammar.Proofs.Session.Invariant

/-! # What nodes keep

Nothing but its children can change about a node once it is built, and the children of a node with
an action cannot either. Both attachments check this before they draw an edge, and building draws
edges from the new node only. The checks also see to the keys: a node that is no plain branch has
its children under their own names.
-/

namespace CommandGrammar

variable {R : Type}

namespace Node

/-- What is left of a node that was there before: its children may have changed if it has no
action, and nothing else. -/
structure Kept (before after : Node R) : Prop where
  name_eq : after.name = before.name
  help_eq : after.help = before.help
  aliasName_eq : after.aliasName = before.aliasName
  store_eq : after.store = before.store
  action_eq : after.action = before.action
  children_eq : before.isExecutable = true → after.children = before.children
  wildcardChild_eq : before.isExecutable = true → after.wildcardChild = before.wildcardChild

namespace Kept

theorem refl (node : Node R) : node.Kept node :=
  ⟨rfl, rfl, rfl, rfl, rfl, fun _ => rfl, fun _ => rfl⟩

theorem isExecutable_eq {before after : Node R} (hkept : before.Kept after) :
    after.isExecutable = before.isExecutable := by
  rw [isExecutable, isExecutable, hkept.action_eq]

theorem trans {first second third : Node R} (hfirst : first.Kept second)
    (hsecond : second.Kept third) : first.Kept third where
  name_eq := hsecond.name_eq.trans hfirst.name_eq
  help_eq := hsecond.help_eq.trans hfirst.help_eq
  aliasName_eq := hsecond.aliasName_eq.trans hfirst.aliasName_eq
  store_eq := hsecond.store_eq.trans hfirst.store_eq
  action_eq := hsecond.action_eq.trans hfirst.action_eq
  children_eq := fun hexecutable =>
    (hsecond.children_eq (hfirst.isExecutable_eq.trans hexecutable)).trans
      (hfirst.children_eq hexecutable)
  wildcardChild_eq := fun hexecutable =>
    (hsecond.wildcardChild_eq (hfirst.isExecutable_eq.trans hexecutable)).trans
      (hfirst.wildcardChild_eq hexecutable)

theorem insertChild {node : Node R} (hopen : node.isExecutable = false) (key : String)
    (child : Nat) : node.Kept (node.insertChild key child) := by
  refine ⟨rfl, rfl, rfl, rfl, rfl, ?_, ?_⟩ <;> simp [hopen]

end Kept

/-- A child of a wired node was wired or was there before. -/
theorem mem_of_child?_wire {node : Node R} {entries : List (String × Nat)} {key : String}
    {child : Nat} (hchild : (node.wire entries).child? key = some child) :
    node.child? key = some child ∨ (key, child) ∈ entries := by
  induction entries generalizing node with
  | nil => exact .inl hchild
  | cons entry rest ih =>
      rcases ih hchild with hbefore | hmem
      · rw [child?_insertChild] at hbefore
        split at hbefore
        next hkey =>
          obtain rfl : entry.2 = child := Option.some.inj hbefore
          exact .inr (hkey ▸ List.mem_cons_self)
        next => exact .inl hbefore
      · exact .inr (List.mem_cons_of_mem _ hmem)

end Node

/-- The store that a capture target gives a node, where these stores were there before: none, a
new one, or the one that it names. -/
inductive CaptureTarget.Gives (stores : StoreTable) : CaptureTarget → Option StoreRef → Prop
  | nowhere : Gives stores .nowhere none
  | fresh {store : StoreRef} :
      stores.contains store = false → Gives stores .fresh (some store)
  | into (store : StoreRef) : Gives stores (.into store) (some store)

/-- The node is as its description has it, but for its children. -/
structure NodeSpec.Describes (spec : NodeSpec R) (stores : StoreTable) (node : Node R) : Prop where
  name_eq : node.name = spec.name
  help_eq : node.help = spec.help
  aliasName_eq : node.aliasName = spec.aliasName
  action_eq : node.action = spec.action
  store : spec.target.Gives stores node.store

namespace NodeSpec.Describes

variable {spec : NodeSpec R} {stores : StoreTable} {node : Node R}

theorem of_kept (hdescribes : spec.Describes stores node) {later : Node R}
    (hkept : node.Kept later) : spec.Describes stores later where
  name_eq := hkept.name_eq.trans hdescribes.name_eq
  help_eq := hkept.help_eq.trans hdescribes.help_eq
  aliasName_eq := hkept.aliasName_eq.trans hdescribes.aliasName_eq
  action_eq := hkept.action_eq.trans hdescribes.action_eq
  store := hkept.store_eq ▸ hdescribes.store

/-- A store that is new to a table is new to one with fewer stores. -/
theorem mono (hdescribes : spec.Describes stores node) {fewer : StoreTable}
    (hfewer : ∀ store, fewer.contains store = true → stores.contains store = true) :
    spec.Describes fewer node := by
  obtain ⟨hname, hhelp, halias, haction, hstore⟩ := hdescribes
  refine ⟨hname, hhelp, halias, haction, ?_⟩
  generalize spec.target = target, node.store = own at hstore
  cases hstore with
  | nowhere => exact .nowhere
  | @fresh store hnew =>
      refine .fresh (Bool.eq_false_iff.mpr fun hold => ?_)
      rw [hfewer store hold] at hnew
      cases hnew
  | into store => exact .into store

end NodeSpec.Describes

namespace Grammar

variable {grammar other : Grammar R}

/-! ## Building puts one node behind the others -/

theorem resolveTarget_gives {target : CaptureTarget} {store : Option StoreRef}
    {stores : StoreTable} (htarget : grammar.resolveTarget target = .ok (store, stores)) :
    target.Gives grammar.stores store := by
  obtain ⟨rfl, rfl, -⟩ | ⟨rfl, rfl, -⟩ | ⟨existing, rfl, -, rfl, -⟩ := resolveTarget_eq_ok htarget
  · exact .nowhere
  · exact .fresh (by simp [StoreTable.create, StoreTable.contains])
  · exact .into existing

/-- A build adds one node at the end. It is as described, and its children are stored nodes under
their own names. -/
theorem build_pushes {spec : NodeSpec R} {change : Change R NodeRef}
    (hbuild : grammar.build spec = .ok change) :
    ∃ node, change.grammar.nodes = grammar.nodes.push node ∧
      spec.Describes grammar.stores node ∧
      ∀ key child, node.child? key = some child → grammar.name? (.stored child) = some key := by
  obtain ⟨children, store, stores, hplaces, htarget, rfl⟩ := build_eq_ok hbuild
  let pushed : Grammar R := ⟨grammar.nodes.push (spec.bare store), stores⟩
  let entries := children.map fun child => (pushed.nameAt child, child)
  refine ⟨(spec.bare store).wire entries,
    nodes_linkAll_append ⟨grammar.nodes, stores⟩ (spec.bare store) entries, ?_, ?_⟩
  · refine ⟨?_, ?_, ?_, ?_, ?_⟩ <;> simp only [Node.name_wire, Node.help_wire,
      Node.aliasName_wire, Node.action_wire, Node.store_wire, NodeSpec.bare]
    exact resolveTarget_gives htarget
  · intro key child hchild
    rcases Node.mem_of_child?_wire hchild with hbare | hentry
    · simp [NodeSpec.bare, Node.child?] at hbare
    · obtain ⟨found, hfound, hnamed⟩ := List.mem_map.mp hentry
      obtain ⟨rfl, rfl⟩ := Prod.mk.inj hnamed
      have hbound := places_lt hplaces found hfound
      simp only [name?, node?, nameAt, pushed, Array.getElem?_push_lt hbound,
        Array.getElem?_eq_getElem hbound, Option.map_some]

/-! ## What one operation does -/

/-- What an operation can come to, with the nodes that it builds, in order. An edge is drawn from
a node without an action, and from a node that captures only under the name of the child. -/
inductive Amends : Grammar R → List (NodeSpec R) → Grammar R → Prop
  | captures {grammar other : Grammar R} (hsame : other.SameStructure grammar) :
      Amends grammar [] other
  | store (grammar : Grammar R) : Amends grammar [] grammar.newStore.2
  | node {grammar : Grammar R} {spec : NodeSpec R} {change : Change R NodeRef}
      (hbuild : grammar.build spec = .ok change) : Amends grammar [spec] change.grammar
  | edge {grammar : Grammar R} {parent child : Nat} {key : String} {node : Node R}
      (hparent : grammar.nodes[parent]? = some node) (hopen : node.isExecutable = false)
      (hkey : node.isCapturing = true → grammar.name? (.stored child) = some key) :
      Amends grammar [] (grammar.link parent key child).1
  | trans {first second third : Grammar R} {specs more : List (NodeSpec R)}
      (hfirst : Amends first specs second) (hsecond : Amends second more third) :
      Amends first (specs ++ more) third

theorem Amends.refl (grammar : Grammar R) : Amends grammar [] grammar := .captures (.refl grammar)

/-! ### Nodes are kept -/

/-- Every node of the first grammar is kept at its place in the second. -/
def Keeps (before after : Grammar R) : Prop :=
  ∀ (index : Nat) (node : Node R), before.nodes[index]? = some node →
    ∃ later, after.nodes[index]? = some later ∧ node.Kept later

theorem Keeps.of_nodes_eq (hnodes : other.nodes = grammar.nodes) : grammar.Keeps other :=
  fun _ node hnode => ⟨node, hnodes ▸ hnode, .refl node⟩

theorem Keeps.trans {first second third : Grammar R} (hfirst : first.Keeps second)
    (hsecond : second.Keeps third) : first.Keeps third := by
  intro index node hnode
  obtain ⟨later, hlater, hkept⟩ := hfirst index node hnode
  obtain ⟨last, hlast, hkeptOn⟩ := hsecond index later hlater
  exact ⟨last, hlast, hkept.trans hkeptOn⟩

theorem Keeps.build {spec : NodeSpec R} {change : Change R NodeRef}
    (hbuild : grammar.build spec = .ok change) : grammar.Keeps change.grammar := by
  obtain ⟨added, hnodes, -⟩ := build_pushes hbuild
  intro index node hnode
  have hbound := (Array.getElem?_eq_some_iff.mp hnode).1
  refine ⟨node, ?_, .refl node⟩
  rw [hnodes, Array.getElem?_push_lt hbound, ← hnode, Array.getElem?_eq_getElem hbound]

theorem Keeps.link {parent : Nat} {node : Node R} (hparent : grammar.nodes[parent]? = some node)
    (hopen : node.isExecutable = false) (key : String) (child : Nat) :
    grammar.Keeps (grammar.link parent key child).1 := by
  intro index found hfound
  rw [nodes_link, Array.getElem?_modify]
  by_cases hindex : parent = index
  · subst hindex
    obtain rfl := Option.some.inj (hparent.symm.trans hfound)
    rw [if_pos rfl, hparent]
    exact ⟨_, rfl, .insertChild hopen key child⟩
  · rw [if_neg hindex]
    exact ⟨found, hfound, .refl found⟩

theorem Amends.keeps {specs : List (NodeSpec R)} (hamends : grammar.Amends specs other) :
    grammar.Keeps other := by
  induction hamends with
  | captures hsame => exact .of_nodes_eq hsame.nodes_eq
  | store grammar => exact .of_nodes_eq rfl
  | node hbuild => exact .build hbuild
  | edge hparent hopen _ => exact .link hparent hopen _ _
  | trans _ _ ihFirst ihSecond => exact ihFirst.trans ihSecond

/-! ### Nodes are built as described -/

theorem Amends.size_eq {specs : List (NodeSpec R)} (hamends : grammar.Amends specs other) :
    other.nodes.size = grammar.nodes.size + specs.length := by
  induction hamends with
  | captures hsame => rw [hsame.nodes_eq, List.length_nil, Nat.add_zero]
  | store grammar => rfl
  | node hbuild =>
      obtain ⟨_, hnodes, -⟩ := build_pushes hbuild
      rw [hnodes, Array.size_push, List.length_singleton]
  | edge => rw [size_link, List.length_nil, Nat.add_zero]
  | trans _ _ ihFirst ihSecond => rw [ihSecond, ihFirst, List.length_append, Nat.add_assoc]

/-- No operation takes a store back. -/
theorem Amends.contains {specs : List (NodeSpec R)} (hamends : grammar.Amends specs other)
    {store : StoreRef} (hstore : grammar.stores.contains store = true) :
    other.stores.contains store = true := by
  induction hamends with
  | captures hsame => rwa [hsame.stores.contains_eq]
  | store grammar => exact StoreTable.contains_create_of_contains hstore
  | node hbuild => exact contains_of_steps (build_draws hbuild).grows hstore
  | edge => rwa [contains_stores_link]
  | trans _ _ ihFirst ihSecond => exact ihSecond (ihFirst hstore)

/-- The nodes that an operation adds stand behind the others, in the order of their
descriptions. -/
theorem Amends.describes {specs : List (NodeSpec R)} (hamends : grammar.Amends specs other)
    {offset : Nat} {spec : NodeSpec R} (hspec : specs[offset]? = some spec) :
    ∃ node, other.nodes[grammar.nodes.size + offset]? = some node ∧
      spec.Describes grammar.stores node := by
  induction hamends generalizing offset with
  | captures => simp at hspec
  | store => simp at hspec
  | edge => simp at hspec
  | node hbuild =>
      obtain ⟨node, hnodes, hdescribes, -⟩ := build_pushes hbuild
      cases offset with
      | zero =>
          obtain rfl := Option.some.inj hspec
          exact ⟨node, by simp [hnodes], hdescribes⟩
      | succ offset => simp at hspec
  | @trans first second third specs more hfirst hsecond ihFirst ihSecond =>
      rw [List.getElem?_append] at hspec
      split at hspec
      next hoffset =>
        obtain ⟨node, hnode, hdescribes⟩ := ihFirst hspec
        obtain ⟨later, hlater, hkept⟩ := hsecond.keeps _ node hnode
        exact ⟨later, hlater, hdescribes.of_kept hkept⟩
      next hoffset =>
        obtain ⟨node, hnode, hdescribes⟩ := ihSecond hspec
        have hplace : second.nodes.size + (offset - specs.length) =
            first.nodes.size + offset := by
          rw [hfirst.size_eq]
          omega
        exact ⟨node, hplace ▸ hnode, hdescribes.mono fun store => hfirst.contains⟩

/-! ### Edges of closed and capturing nodes are named -/

/-- The children of every node that is no plain branch stand under their own names. -/
def NamedEdges (grammar : Grammar R) : Prop :=
  ∀ (index : Nat) (node : Node R), grammar.nodes[index]? = some node → node.kind ≠ .branch →
    ∀ key child, node.child? key = some child → grammar.name? (.stored child) = some key

theorem NamedEdges.empty : (Grammar.empty : Grammar R).NamedEdges := by
  intro index node hnode
  simp [Grammar.empty] at hnode

theorem Keeps.name? (hkeeps : grammar.Keeps other) {index : Nat} {name : String}
    (hname : grammar.name? (.stored index) = some name) :
    other.name? (.stored index) = some name := by
  obtain ⟨node, hnode, rfl⟩ := Option.map_eq_some_iff.mp hname
  obtain ⟨later, hlater, hkept⟩ := hkeeps index node hnode
  exact Option.map_eq_some_iff.mpr ⟨later, hlater, hkept.name_eq⟩

theorem name?_stored {index : Nat} (hindex : index < grammar.nodes.size) :
    grammar.name? (.stored index) = some (grammar.nameAt index) := by
  simp only [Grammar.name?, node?, nameAt, Array.getElem?_eq_getElem hindex, Option.map_some]

theorem NamedEdges.link (hnamed : grammar.NamedEdges) {parent child : Nat} {key : String}
    {node : Node R} (hparent : grammar.nodes[parent]? = some node)
    (hopen : node.isExecutable = false)
    (hkey : node.isCapturing = true → grammar.name? (.stored child) = some key) :
    (grammar.link parent key child).1.NamedEdges := by
  have hkeeps := Keeps.link hparent hopen key child
  intro index found hfound hkind other target htarget
  apply hkeeps.name?
  obtain ⟨before, hbefore, rfl | ⟨rfl, rfl⟩⟩ := node_of_node_link hfound
  · exact hnamed index _ hbefore hkind other target htarget
  · obtain rfl := Option.some.inj (hparent.symm.trans hbefore)
    rw [Node.child?_insertChild] at htarget
    split at htarget
    next hsame =>
      obtain rfl := Option.some.inj htarget
      rw [← hsame]
      apply hkey
      by_contra hsilent
      exact hkind (Node.kind_eq_branch_iff.mpr ⟨hopen, eq_false_of_ne_true hsilent⟩)
    next => exact hnamed index node hbefore hkind other target htarget

theorem NamedEdges.amends (hnamed : grammar.NamedEdges) {specs : List (NodeSpec R)}
    (hamends : grammar.Amends specs other) : other.NamedEdges := by
  induction hamends with
  | captures hsame =>
      intro index node hnode hkind key child hchild
      rw [hsame.nodes_eq] at hnode
      exact (Keeps.of_nodes_eq hsame.nodes_eq).name?
        (hnamed index node hnode hkind key child hchild)
  | store grammar => exact hnamed
  | @node grammar spec change hbuild =>
      have hkeeps := Keeps.build hbuild
      obtain ⟨added, hnodes, -, hchildren⟩ := build_pushes hbuild
      intro index node hnode hkind key child hchild
      apply hkeeps.name?
      rw [hnodes, Array.getElem?_push] at hnode
      split at hnode
      · obtain rfl := Option.some.inj hnode
        exact hchildren key child hchild
      · exact hnamed index node hnode hkind key child hchild
  | edge hparent hopen hkey => exact hnamed.link hparent hopen hkey
  | trans _ _ ihFirst ihSecond => exact ihSecond (ihFirst hnamed)

/-! ## The operations -/

theorem attach_amends {parent child : NodeRef} {change : Change R Unit}
    (hattach : grammar.attach parent child = .ok change) : grammar.Amends [] change.grammar := by
  obtain ⟨rfl, rfl⟩ | ⟨parentIndex, childIndex, node, rfl, hchild, hparent, hopen, rfl⟩ :=
    attach_eq_ok hattach
  · exact .refl grammar
  · obtain ⟨rfl, hbound⟩ := place?_eq_some_iff.mp hchild
    exact .edge hparent hopen fun _ => name?_stored hbound

/-- A plain branch takes children under any keys. -/
theorem linkAll_amends {parent : Nat} {node : Node R}
    (hparent : grammar.nodes[parent]? = some node) (hopen : node.isExecutable = false)
    (hsilent : node.isCapturing = false) (children : List (String × Nat)) :
    grammar.Amends [] (grammar.linkAll parent children).1 := by
  induction children generalizing grammar node with
  | nil => exact .refl grammar
  | cons entry rest ih =>
      have hedge : grammar.Amends [] (grammar.link parent entry.1 entry.2).1 := by
        refine .edge hparent hopen fun hcapturing => ?_
        rw [hsilent] at hcapturing
        cases hcapturing
      have hlinked : (grammar.link parent entry.1 entry.2).1.nodes[parent]? =
          some (node.insertChild entry.1 entry.2) := getElem?_nodes_link_self hparent
      exact hedge.trans (ih hlinked hopen hsilent)

theorem attachMany_amends {parent : NodeRef} {children : List (String × NodeRef)}
    {change : Change R Unit} (hattach : grammar.attachMany parent children = .ok change) :
    grammar.Amends [] change.grammar := by
  obtain ⟨rfl, rfl⟩ | ⟨parentIndex, node, indices, rfl, hparent, hopen, hsilent, -, rfl⟩ :=
    attachMany_eq_ok hattach
  · exact .refl grammar
  · exact linkAll_amends hparent hopen hsilent _

end Grammar

/-- As many of the descriptions are built as come before one that is refused. -/
theorem Select.buildAll_amends (grammar : Grammar R) (specs : List (NodeSpec R)) :
    ∃ built, built <+: specs ∧ grammar.Amends built (buildAll grammar specs).grammar := by
  induction specs generalizing grammar with
  | nil => exact ⟨[], List.nil_prefix, .refl grammar⟩
  | cons spec rest ih =>
      unfold buildAll
      cases hbuild : grammar.build spec with
      | error fault => exact ⟨[], List.nil_prefix, .refl grammar⟩
      | ok change =>
          obtain ⟨built, hprefix, hamends⟩ := ih change.grammar
          exact ⟨spec :: built, List.cons_prefix_cons.mpr ⟨rfl, hprefix⟩,
            (Grammar.Amends.node hbuild).trans hamends⟩

namespace Dispatcher

variable {dispatcher : Dispatcher R}

/-- The descriptions of the nodes that an operation builds. -/
def described (dispatcher : Dispatcher R) : Operation R → List (NodeSpec R)
  | .build spec => [spec]
  | .installSelect store callbacks =>
    (Select.Callbacks.ofList? callbacks).elim [] fun known =>
      Select.specs store known dispatcher.grammar.size
  | _ => []

/-- What a construction that may be refused does, if what it does unrefused is known. -/
theorem performChange_amends {α : Type} (respond : α → Response R)
    (result : Except Error (Change R α)) (specs : List (NodeSpec R))
    (hamends : ∀ change, result = .ok change → dispatcher.grammar.Amends specs change.grammar) :
    ∃ built, built <+: specs ∧ dispatcher.grammar.Amends built
      (dispatcher.performChange respond result).dispatcher.grammar := by
  cases result with
  | error error => exact ⟨[], List.nil_prefix, .refl _⟩
  | ok change => exact ⟨specs, List.prefix_rfl, hamends change rfl⟩

theorem perform_amends (dispatcher : Dispatcher R) (operation : Operation R) :
    ∃ built, built <+: dispatcher.described operation ∧
      dispatcher.grammar.Amends built (dispatcher.perform operation).dispatcher.grammar := by
  have hnothing : ∀ after : Grammar R, after.SameStructure dispatcher.grammar →
      ∃ built, built <+: dispatcher.described operation ∧ dispatcher.grammar.Amends built after :=
    fun after hsame => ⟨[], List.nil_prefix, .captures hsame⟩
  cases hkind : operation.recordsOrClears with
  | true => exact hnothing _ (dispatcher.perform_sameStructure hkind).grammar
  | false =>
      cases operation with
      | createStore => exact ⟨[], List.nil_prefix, .store dispatcher.grammar⟩
      | build spec => exact performChange_amends _ _ _ fun _ hbuild => .node hbuild
      | attach parent child =>
          exact performChange_amends _ _ _ fun _ hattach => Grammar.attach_amends hattach
      | attachMany parent children =>
          exact performChange_amends _ _ _ fun _ hattach => Grammar.attachMany_amends hattach
      | installSelect store callbacks =>
          simp only [perform, described, Select.install]
          cases Select.Callbacks.ofList? callbacks with
          | none => exact ⟨[], List.nil_prefix, .refl _⟩
          | some known => exact Select.buildAll_amends dispatcher.grammar _
      | register root =>
          rw [perform, grammar_performEntry_register]
          exact hnothing _ (.refl _)
      | registerAs name root =>
          rw [perform, grammar_performEntry_registerAs]
          exact hnothing _ (.refl _)
      | setTokenizer strategy source =>
          rw [perform, grammar_performTokenizer]
          exact hnothing _ (.refl _)
      | _ => simp [Operation.recordsOrClears] at hkind

theorem afterAll_keeps (dispatcher : Dispatcher R) (operations : List (Operation R)) :
    dispatcher.grammar.Keeps (dispatcher.afterAll operations).grammar := by
  induction operations generalizing dispatcher with
  | nil => exact .of_nodes_eq rfl
  | cons operation rest ih =>
      obtain ⟨built, -, hamends⟩ := dispatcher.perform_amends operation
      exact hamends.keeps.trans (ih _)

theorem Reachable.namedEdges (hreach : dispatcher.Reachable) : dispatcher.grammar.NamedEdges := by
  induction hreach with
  | start tokenizer => exact .empty
  | @step before operation _ ih =>
      obtain ⟨built, -, hamends⟩ := before.perform_amends operation
      exact ih.amends hamends

/-- Nodes stay as they were built. Whatever operations follow, refused ones among them, a node
keeps its name, its help, its alias, its store and its action, and a node with an action keeps its
children and its wildcard child as well. The nodes that an operation adds are as their descriptions
have them. And only plain branches have children under other keys than the names of the children:
every edge of a node that has an action or captures is named after the node that it leads to. -/
theorem Reachable.nodes_stay_as_built (hreach : dispatcher.Reachable) :
    (∀ (operations : List (Operation R)) (index : Nat) (node : Node R),
      dispatcher.grammar.nodes[index]? = some node →
        ∃ later, (dispatcher.afterAll operations).grammar.nodes[index]? = some later ∧
          node.Kept later) ∧
    (∀ operation, ∃ built, built <+: dispatcher.described operation ∧
      (dispatcher.perform operation).dispatcher.grammar.size =
        dispatcher.grammar.size + built.length ∧
      ∀ (offset : Nat) (spec : NodeSpec R), built[offset]? = some spec →
        ∃ node, (dispatcher.perform operation).dispatcher.grammar.nodes[
            dispatcher.grammar.size + offset]? = some node ∧
          spec.Describes dispatcher.grammar.stores node) ∧
    ∀ (index : Nat) (node : Node R), dispatcher.grammar.nodes[index]? = some node →
      node.kind ≠ .branch →
        (∀ key child, node.child? key = some child →
          dispatcher.grammar.name? (.stored child) = some key) ∧
        ∀ child, node.wildcardChild = some child →
          dispatcher.grammar.name? (.stored child) = some wildcard := by
  refine ⟨dispatcher.afterAll_keeps, fun operation => ?_, fun index node hnode hkind => ?_⟩
  · obtain ⟨built, hprefix, hamends⟩ := dispatcher.perform_amends operation
    exact ⟨built, hprefix, hamends.size_eq, fun offset spec hspec => hamends.describes hspec⟩
  · have hnamed := hreach.namedEdges index node hnode hkind
    refine ⟨hnamed, fun child hslot => hnamed wildcard child ?_⟩
    rw [← hreach.wellFormed.mirrored index node hnode, hslot]

/-- A node `again` with an action and two children is built behind the nodes for `use alice show`.
What tries to give it another child, or to give one to `use` under a foreign key, is refused, and
what attaches `use` to itself, records and clears leaves `again` alone. -/
theorem nodes_stay_as_built_again :
    let dispatcher := nameShower.afterAll [.build
      { NodeSpec.executable "again" (fun captures => captures.values ⟨1⟩) with
        children := [.stored 2, .stored 1] }]
    let meddled := dispatcher.afterAll [.attach (.stored 3) (.stored 0),
      .attachMany (.stored 3) [("use", .stored 0)], .attachMany (.stored 2) [("x", .stored 1)],
      .attach (.stored 7) (.stored 0), .attach .notFound (.stored 1),
      .attach (.stored 2) (.stored 2), .runTokens ["use", "alice", "show"], .clearAll]
    dispatcher.Reachable ∧
      (∃ later, meddled.grammar.nodes[3]? = some later ∧ later.name = "again" ∧
        later.child? "use" = some 2 ∧ later.wildcardChild = some 1) ∧
      dispatcher.grammar.name? (.stored 1) = some wildcard := by
  intro dispatcher meddled
  have hreach : dispatcher.Reachable := nameShower_reachable.afterAll _
  obtain ⟨hkept, -, hnamed⟩ := hreach.nodes_stay_as_built
  obtain ⟨node, hnode, hname, hexecutable, huse, hslot⟩ :
      ∃ node, dispatcher.grammar.nodes[3]? = some node ∧ node.name = "again" ∧
        node.isExecutable = true ∧ node.child? "use" = some 2 ∧ node.wildcardChild = some 1 :=
    ⟨_, rfl, by decide, by decide, by decide, by decide⟩
  obtain ⟨later, hlater, hkeeps⟩ := hkept _ 3 node hnode
  have hkind : node.kind ≠ .branch := by simp [Node.kind, hexecutable]
  refine ⟨hreach, ⟨later, hlater, hkeeps.name_eq.trans hname, ?_, ?_⟩,
    (hnamed 3 node hnode hkind).2 1 hslot⟩
  · rw [Node.child?, hkeeps.children_eq hexecutable]
    exact huse
  · exact (hkeeps.wildcardChild_eq hexecutable).trans hslot

end Dispatcher

end CommandGrammar
