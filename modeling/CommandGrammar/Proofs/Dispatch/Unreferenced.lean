import CommandGrammar.Proofs.Dispatch.Agreement
import CommandGrammar.Proofs.Dispatch.Frame
import CommandGrammar.Proofs.Session.Integrity
import CommandGrammar.Proofs.Store.Calls

/-! # Nodes that nothing refers to

A node that was just built is behind the end of the old table, and so is a store that was created
for it. No child, no entry and no capturing node refers there, so commands do not notice either:
they pass the old nodes only, and a new store reads empty like one that does not exist.
-/

namespace CommandGrammar

variable {R : Type}

namespace Grammar

variable {small large : Grammar R}

/-- The larger grammar has further nodes and stores behind those of the smaller one. It has the
same nodes up to there, no further handle of an old list, and reads every handle the same. -/
structure Extends (small large : Grammar R) : Prop where
  nodes_eq : ∀ index, index < small.nodes.size → large.nodes[index]? = small.nodes[index]?
  sameStore_eq : ∀ own, small.stores.contains own = true →
    ∀ store, large.sameStore own store = small.sameStore own store
  captured_eq : ∀ store, large.captured store = small.captured store

/-! ## Walking the old nodes -/

/-- Tokens lead from an old node to old nodes only. -/
theorem WellFormed.foldl_lookup_known (hwf : small.WellFormed) {node : NodeRef}
    (hnode : small.Known node) (tokens : List String) :
    small.Known (tokens.foldl small.lookup node) := by
  induction tokens generalizing node with
  | nil => exact hnode
  | cons token rest ih => exact ih (hwf.lookup_known node token)

/-- Child edges, too, lead from an old node to old nodes only. -/
theorem WellFormed.lt_of_reaches (hwf : small.WellFormed) {start index : Nat}
    (hstart : start < small.nodes.size) (hreaches : small.Reaches start index) :
    index < small.nodes.size := by
  cases hreaches with
  | refl => exact hstart
  | tail _ hedge => exact hwf.children_stored _ _ hedge

namespace Extends

theorem node?_eq (hextends : small.Extends large) {node : NodeRef} (hnode : small.Known node) :
    large.node? node = small.node? node := by
  obtain rfl | ⟨index, hindex, rfl⟩ := hnode
  · rfl
  · exact hextends.nodes_eq index hindex

theorem storeAt_eq (hextends : small.Extends large) {index : Nat}
    (hindex : index < small.nodes.size) : large.storeAt index = small.storeAt index := by
  rw [storeAt, storeAt, hextends.nodes_eq index hindex]

theorem agreeAt (hextends : small.Extends large) (hwf : small.WellFormed) {node : NodeRef}
    (hnode : small.Known node) (token : String) : small.AgreeAt large node token := by
  have hsame := hextends.node?_eq hnode
  refine ⟨by rw [lookup, lookup, hsame], fun store => ?_⟩
  rw [records, records, hsame]
  cases hfound : small.node? node with
  | none => rfl
  | some found =>
      cases hstore : found.store with
      | none => simp [hstore]
      | some own =>
          -- The store of an old node is an old store.
          have hknown : small.stores.contains own = true := by
            cases node with
            | notFound => simp [node?] at hfound
            | stored index =>
                refine hwf.stores_known index own ?_
                rw [storeAt, show small.nodes[index]? = some found from hfound, Option.bind_some,
                  hstore]
          simp [hstore, hextends.sameStore_eq own hknown]

theorem agreeAlong (hextends : small.Extends large) (hwf : small.WellFormed) {node : NodeRef}
    (hnode : small.Known node) (tokens : List String) : small.AgreeAlong large node tokens :=
  fun i token _ => hextends.agreeAt hwf (hwf.foldl_lookup_known hnode (tokens.take i)) token

theorem edge_iff (hextends : small.Extends large) {source target : Nat}
    (hsource : source < small.nodes.size) :
    large.Edge source target ↔ small.Edge source target := by
  rw [Edge, Edge, hextends.nodes_eq source hsource]

theorem reaches_iff (hextends : small.Extends large) (hwf : small.WellFormed) {start index : Nat}
    (hstart : start < small.nodes.size) :
    large.Reaches start index ↔ small.Reaches start index := by
  constructor
  · intro hreaches
    induction hreaches with
    | refl => exact .refl
    | tail _ hedge ih =>
        have hsource := hwf.lt_of_reaches hstart ih
        exact ih.tail ((hextends.edge_iff hsource).mp hedge)
  · intro hreaches
    induction hreaches with
    | refl => exact .refl
    | tail _ hedge ih => exact ih.tail ((hextends.edge_iff hedge.source_lt).mpr hedge)

theorem capturesBelow_iff (hextends : small.Extends large) (hwf : small.WellFormed)
    {root : NodeRef} (hroot : small.Known root) (store : StoreRef) :
    large.CapturesBelow root store ↔ small.CapturesBelow root store := by
  obtain rfl | ⟨start, hstart, rfl⟩ := hroot
  · simp [CapturesBelow]
  · simp only [CapturesBelow, NodeRef.stored.injEq, exists_eq_left', exists_and_left]
    refine exists_congr fun index => ?_
    rw [hextends.reaches_iff hwf hstart]
    refine and_congr_right fun hreaches => ?_
    rw [hextends.storeAt_eq (hwf.lt_of_reaches hstart hreaches)]
    refine exists_congr fun own => and_congr_right fun hown => ?_
    rw [hextends.sameStore_eq own (hwf.stores_known index own hown)]

/-! ## Building behind the end -/

theorem refl (grammar : Grammar R) : grammar.Extends grammar :=
  ⟨fun _ _ => rfl, fun _ _ _ => rfl, fun _ => rfl⟩

/-- A new store shares its list with no old one. -/
theorem newStore (hgrounded : small.stores.Grounded) : small.Extends small.newStore.2 := by
  refine ⟨fun _ _ => rfl, fun own hown store => ?_, StoreTable.values_create hgrounded⟩
  have hold : own ≠ small.stores.create.1 := by
    rintro rfl
    simp [StoreTable.create, StoreTable.contains] at hown
  have hiff := StoreTable.isUnified_create_iff hgrounded (a := own) (b := store)
  simp only [hold, and_false, or_false] at hiff
  exact Bool.eq_iff_iff.mpr hiff

end Extends

/-- Building from the description unifies no stores: the new node does not capture, or none of its
children does, or those that do capture into the logical store that it is given. -/
def UnifiesNothing (grammar : Grammar R) (spec : NodeSpec R) : Prop :=
  spec.target = .nowhere ∨
    (∀ child, .stored child ∈ spec.children → grammar.storeAt child = none) ∨
    ∃ own, spec.target = .into own ∧ ∀ child other, .stored child ∈ spec.children →
      grammar.storeAt child = some other → grammar.sameStore own other = true

variable {grammar : Grammar R}

theorem resolveTarget_extends (hgrounded : grammar.stores.Grounded) {target : CaptureTarget}
    {store : Option StoreRef} {stores : StoreTable}
    (htarget : grammar.resolveTarget target = .ok (store, stores)) :
    grammar.Extends { grammar with stores } := by
  obtain ⟨_, _, rfl⟩ | ⟨_, _, rfl⟩ | ⟨_, _, _, _, rfl⟩ := resolveTarget_eq_ok htarget
  · exact .refl grammar
  · exact .newStore hgrounded
  · exact .refl grammar

/-- A node that unifies nothing when it is built shares its store with its children if both
capture. -/
theorem UnifiesNothing.unifiedAt {spec : NodeSpec R} (hunifies : grammar.UnifiesNothing spec)
    {children : List Nat} {store : Option StoreRef} {stores : StoreTable}
    (hplaces : grammar.places spec.children = .ok children)
    (htarget : grammar.resolveTarget spec.target = .ok (store, stores)) {child : Nat}
    (hchild : child ∈ children) :
    (append ⟨grammar.nodes, stores⟩ (spec.bare store)).UnifiedAt grammar.nodes.size child := by
  intro own other hown hother
  obtain ⟨hnodes, hbounds⟩ := places_eq_ok_iff.mp hplaces
  have hmem : NodeRef.stored child ∈ spec.children := by
    rw [hnodes]
    exact List.mem_map_of_mem hchild
  obtain rfl : store = some own := by simpa [storeAt, append, NodeSpec.bare] using hown
  have hold : grammar.storeAt child = some other := by
    rw [← hother]
    exact (storeAt_append (spec.bare (some own)) (hbounds child hchild)).symm
  rcases hunifies with hnowhere | hsilent | ⟨given, hinto, hshares⟩
  · simp [hnowhere, resolveTarget] at htarget
  · exact absurd (hold.symm.trans (hsilent child hmem)) (by simp)
  · rw [hinto] at htarget
    obtain ⟨hnot, _⟩ | ⟨hnot, _⟩ | ⟨_, hgiven, _, hown, rfl⟩ := resolveTarget_eq_ok htarget
    · simp at hnot
    · simp at hnot
    · cases hgiven
      cases hown
      exact hshares child other hmem hold

/-- A node that unifies nothing is built behind the end of the grammar. -/
theorem UnifiesNothing.extends {spec : NodeSpec R} (hunifies : grammar.UnifiesNothing spec)
    (hgrounded : grammar.stores.Grounded) {change : Change R NodeRef}
    (hbuild : grammar.build spec = .ok change) : grammar.Extends change.grammar := by
  obtain ⟨children, store, stores, hplaces, htarget, rfl⟩ := build_eq_ok hbuild
  have hstores := resolveTarget_extends hgrounded htarget
  let appended := append ⟨grammar.nodes, stores⟩ (spec.bare store)
  have hlinked : (appended.linkNamed grammar.nodes.size children).1.stores = stores := by
    refine stores_linkAll_of_unifiedAt fun entry hentry => ?_
    obtain ⟨child, hchild, rfl⟩ := List.mem_map.mp hentry
    exact hunifies.unifiedAt hplaces htarget hchild
  refine ⟨fun index hindex => ?_, fun own hown b => ?_, fun a => ?_⟩
  · simp only [linkNamed, nodes_linkAll, Array.getElem?_modify, if_neg (Nat.ne_of_gt hindex)]
    rw [Array.getElem?_push_lt hindex, Array.getElem?_eq_getElem hindex]
  · rw [← hstores.sameStore_eq own hown]
    exact congrArg (StoreTable.isUnified · own b) hlinked
  · rw [← hstores.captured_eq]
    exact congrArg (StoreTable.values · a) hlinked

end Grammar

namespace Dispatcher

variable {dispatcher : Dispatcher R}

theorem EntriesStored.entry_known (hentries : dispatcher.EntriesStored) (name : String) :
    dispatcher.grammar.Known (dispatcher.entry name) := by
  unfold entry
  cases hname : dispatcher.entries[name]? with
  | none => exact .inl rfl
  | some index => exact .inr ⟨index, hentries name index hname, rfl⟩

theorem EntriesStored.root_known (hentries : dispatcher.EntriesStored) (tokens : List String) :
    dispatcher.grammar.Known (dispatcher.root tokens) := by
  cases tokens with
  | nil => exact .inl rfl
  | cons first rest => exact hentries.entry_known first

/-- A command comes to the same whether or not the grammar goes on behind its end. -/
theorem outcome_runTokens_of_extends (hwf : dispatcher.grammar.WellFormed)
    (hentries : dispatcher.EntriesStored) {large : Grammar R}
    (hextends : dispatcher.grammar.Extends large) (tokens : List String) :
    (runTokens { dispatcher with grammar := large } tokens).outcome =
      (dispatcher.runTokens tokens).outcome := by
  cases tokens with
  | nil => rfl
  | cons first rest =>
      have hknown := hentries.entry_known first
      have halong := hextends.agreeAlong hwf hknown rest
      refine Eq.symm (outcome_eq_of_agreeAlong rfl halong (fun store => ?_) ?_)
      · exact (hextends.captured_eq store).symm
      · have hsettled := hwf.foldl_lookup_known hknown
          (rest.take (dispatcher.grammar.progress (dispatcher.entry first) rest))
        rw [settled, Grammar.value_settled, Grammar.action?, Grammar.action?,
          hextends.node?_eq hsettled]

/-- Whatever a command records and clears, it does so in the old stores. -/
theorem captured_runTokens_of_extends (hwf : dispatcher.grammar.WellFormed)
    (hentries : dispatcher.EntriesStored) {large : Grammar R} (hlarge : large.WellFormed)
    (hextends : dispatcher.grammar.Extends large) (tokens : List String) (store : StoreRef) :
    (runTokens { dispatcher with grammar := large } tokens).dispatcher.grammar.captured store =
      (dispatcher.runTokens tokens).dispatcher.grammar.captured store := by
  have hiff := hextends.capturesBelow_iff hwf (hentries.root_known tokens) store
  by_cases hbelow : dispatcher.grammar.CapturesBelow (dispatcher.root tokens) store
  · rw [captured_runTokens_of_below hbelow]
    refine captured_runTokens_of_below ?_
    cases tokens <;> exact hiff.mpr hbelow
  · rw [captured_runTokens_of_not_below hwf hbelow]
    refine (captured_runTokens_of_not_below hlarge ?_).trans (hextends.captured_eq store)
    cases tokens <;> exact mt hiff.mp hbelow

/-- A node shows in no command until something refers to it. If building it unifies no stores,
every command has the outcome that it would have had without the node, and leaves in every store
what it would have left there. That holds for all stores, given out or not, and for all actions,
also for those that read a handle which the new store now answers to. -/
theorem Reachable.runTokens_build (hreach : dispatcher.Reachable) {spec : NodeSpec R}
    {built : NodeRef} (hbuilt : (dispatcher.perform (.build spec)).response = .node built)
    (hunifies : dispatcher.grammar.UnifiesNothing spec) (tokens : List String) :
    let after := (dispatcher.perform (.build spec)).dispatcher
    (after.runTokens tokens).outcome = (dispatcher.runTokens tokens).outcome ∧
      ∀ store, (after.runTokens tokens).dispatcher.grammar.captured store =
        (dispatcher.runTokens tokens).dispatcher.grammar.captured store := by
  have hlarge := (hreach.step (.build spec)).wellFormed
  cases hbuild : dispatcher.grammar.build spec with
  | error fault => simp [perform, hbuild, performChange] at hbuilt
  | ok change =>
      have hextends := hunifies.extends hreach.grounded hbuild
      simp only [perform, hbuild, performChange] at hlarge ⊢
      exact ⟨outcome_runTokens_of_extends hreach.wellFormed hreach.entriesStored hextends tokens,
        captured_runTokens_of_extends hreach.wellFormed hreach.entriesStored hlarge hextends tokens⟩

/-- The dispatcher for commands such as `use alice show`, with a node that answers what a store
holds that was not given out yet. -/
def nameShowerWithPeek : Dispatcher (List String) :=
  nameShower.afterAll
    [.build (.executable "peek" fun captures => captures.values ⟨2⟩), .register (.stored 3)]

/-- A capturing node that is built above `peek` is given this store, and `peek` answers the same. -/
theorem runTokens_build_above_peek :
    let spec : NodeSpec (List String) :=
      { NodeSpec.capturing wildcard with children := [.stored 3] }
    let after := (nameShowerWithPeek.perform (.build spec)).dispatcher
    nameShowerWithPeek.Reachable ∧ nameShowerWithPeek.grammar.stores.contains ⟨2⟩ = false ∧
      after.grammar.storeAt 4 = some ⟨2⟩ ∧
      (nameShowerWithPeek.runTokens ["peek"]).outcome = .executed [] ∧
      (after.runTokens ["peek"]).outcome = (nameShowerWithPeek.runTokens ["peek"]).outcome ∧
      ∀ store, (after.runTokens ["peek"]).dispatcher.grammar.captured store =
        (nameShowerWithPeek.runTokens ["peek"]).dispatcher.grammar.captured store := by
  intro spec after
  have hreach : nameShowerWithPeek.Reachable := nameShower_reachable.afterAll _
  have hbuilt : (nameShowerWithPeek.perform (.build spec)).response = .node (.stored 4) := rfl
  have hunifies : nameShowerWithPeek.grammar.UnifiesNothing spec := by
    refine .inr (.inl fun child hchild => ?_)
    obtain rfl : child = 3 := by simpa [spec] using hchild
    rfl
  exact ⟨hreach, rfl, rfl, by decide, hreach.runTokens_build hbuilt hunifies ["peek"]⟩

end Dispatcher

end CommandGrammar
