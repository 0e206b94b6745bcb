import CommandGrammar.Proofs.Grammar.Appending
import CommandGrammar.Proofs.Session.Invariant
import CommandGrammar.Proofs.Session.Integrity
import CommandGrammar.Proofs.Store.Calls

/-! # Which nodes share a store

Stores are unified along edges and in no other way. Two handles read the same captures if and only
if a chain of edges connects them, each drawn at some time between two capturing nodes with these
stores: in whatever order the grammar was built, and also if the edge was replaced since.
-/

namespace CommandGrammar

variable {R : Type}

namespace Grammar

variable {grammar : Grammar R} {edges : List (Nat × Nat)}

/-- An edge of the list has a node that captures into the first store at its beginning and a node
that captures into the second at its end. -/
def CaptureAdjacent (grammar : Grammar R) (edges : List (Nat × Nat)) (a b : StoreRef) : Prop :=
  ∃ edge ∈ edges, grammar.storeAt edge.1 = some a ∧ grammar.storeAt edge.2 = some b

theorem captureAdjacent_append (edges more : List (Nat × Nat)) (a b : StoreRef) :
    grammar.CaptureAdjacent (edges ++ more) a b ↔
      grammar.CaptureAdjacent edges a b ∨ grammar.CaptureAdjacent more a b := by
  simp only [CaptureAdjacent, List.mem_append, or_and_right, exists_or]

theorem captureAdjacent_congr {other : Grammar R}
    (hstores : ∀ edge ∈ edges, other.storeAt edge.1 = grammar.storeAt edge.1 ∧
      other.storeAt edge.2 = grammar.storeAt edge.2) :
    other.CaptureAdjacent edges = grammar.CaptureAdjacent edges := by
  funext a b
  refine propext (exists_congr fun edge => and_congr_right fun hedge => ?_)
  rw [(hstores edge hedge).1, (hstores edge hedge).2]

/-- The edges drawn so far account for the children of all nodes and for which handles read one
list. -/
structure SharesAlong (grammar : Grammar R) (edges : List (Nat × Nat)) : Prop where
  bounded : ∀ edge ∈ edges, edge.1 < grammar.nodes.size ∧ edge.2 < grammar.nodes.size
  covers : ∀ source target, grammar.Edge source target → (source, target) ∈ edges
  sameStore_iff : ∀ a b, grammar.sameStore a b = true ∨ a = b ↔
    Relation.EqvGen (grammar.CaptureAdjacent edges) a b

namespace SharesAlong

theorem empty : (Grammar.empty : Grammar R).SharesAlong [] := by
  refine ⟨by simp, ?_, ?_⟩
  · rintro source target ⟨node, key, hnode, _⟩
    simp [Grammar.empty] at hnode
  · intro a b
    have hapart : (Grammar.empty : Grammar R).sameStore a b = false := rfl
    have hnone : (Grammar.empty : Grammar R).CaptureAdjacent [] ≤ Eq := by
      rintro a b ⟨edge, hedge, _⟩
      simp at hedge
    rw [hapart]
    constructor
    · rintro (hsame | rfl)
      · simp at hsame
      · exact .refl a
    · intro hrelated
      have := eq_isEquiv StoreRef
      exact .inr (Relation.EqvGen.eqvGen_le hnone a b hrelated)

theorem of_sameStructure (hshares : grammar.SharesAlong edges) {other : Grammar R}
    (hsame : other.SameStructure grammar) : other.SharesAlong edges := by
  refine ⟨?_, ?_, fun a b => ?_⟩
  · rw [hsame.nodes_eq]
    exact hshares.bounded
  · rw [hsame.edge_eq]
    exact hshares.covers
  · have hadjacent : other.CaptureAdjacent edges = grammar.CaptureAdjacent edges :=
      captureAdjacent_congr fun _ _ => by simp only [hsame.storeAt_eq, and_self]
    rw [hsame.sameStore_eq, hadjacent]
    exact hshares.sameStore_iff a b

/-- What a call on the stores unifies is added to what the edges account for. -/
theorem isUnified_call_iff (hshares : grammar.SharesAlong edges)
    (hgrounded : grammar.stores.Grounded) (next : StoreCall) (a b : StoreRef) :
    (grammar.stores.call next).2.isUnified a b = true ∨ a = b ↔
      Relation.EqvGen (fun a b => grammar.CaptureAdjacent edges a b ∨
        (a, b) ∈ grammar.stores.pairsOf next) a b := by
  have hcall := StoreTable.isUnified_callAll_iff hgrounded [next] a b
  rw [StoreTable.unifiedPairs_cons] at hcall
  simp only [StoreTable.unifiedPairs, List.append_nil, StoreTable.callAll, StoreTable.Joined]
    at hcall
  refine hcall.trans ⟨Relation.EqvGen.eqvGen_le ?_ a b, Relation.EqvGen.eqvGen_le ?_ a b⟩
  · rintro a b (hunified | hpair)
    · exact ((hshares.sameStore_iff a b).mp (.inl hunified)).mono fun _ _ => Or.inl
    · exact .rel a b (.inr hpair)
  · rintro a b (hadjacent | hpair)
    · rcases (hshares.sameStore_iff a b).mpr (.rel a b hadjacent) with hunified | rfl
      · exact .rel a b (.inl hunified)
      · exact .refl a
    · exact .rel a b (.inr hpair)

theorem newStore (hshares : grammar.SharesAlong edges) (hgrounded : grammar.stores.Grounded) :
    grammar.newStore.2.SharesAlong edges := by
  refine ⟨hshares.bounded, hshares.covers, fun a b => ?_⟩
  have hcall := hshares.isUnified_call_iff hgrounded .create a b
  simp only [StoreTable.pairsOf, List.not_mem_nil, or_false] at hcall
  exact hcall

theorem push_bare (hshares : grammar.SharesAlong edges) (spec : NodeSpec R)
    (store : Option StoreRef) : (grammar.append (spec.bare store)).SharesAlong edges := by
  refine ⟨fun edge hedge => ?_, ?_, fun a b => ?_⟩
  · obtain ⟨hsource, htarget⟩ := hshares.bounded edge hedge
    simp only [append, Array.size_push]
    omega
  · rintro source target ⟨node, key, hnode, hchild⟩
    rw [append, Array.getElem?_push] at hnode
    split at hnode
    · obtain rfl : spec.bare store = node := by simpa using hnode
      simp [NodeSpec.bare, Node.child?] at hchild
    · exact hshares.covers source target ⟨node, key, hnode, hchild⟩
  · have hadjacent : (grammar.append (spec.bare store)).CaptureAdjacent edges =
        grammar.CaptureAdjacent edges :=
      captureAdjacent_congr fun edge hedge =>
        ⟨storeAt_append _ (hshares.bounded edge hedge).1,
          storeAt_append _ (hshares.bounded edge hedge).2⟩
    rw [hadjacent]
    exact hshares.sameStore_iff a b

/-- An edge between two capturing nodes unifies their stores, and any other edge none. -/
theorem sameStore_link_iff (hshares : grammar.SharesAlong edges)
    (hgrounded : grammar.stores.Grounded) (hwf : grammar.WellFormed) (parent : Nat)
    (key : String) (child : Nat) (a b : StoreRef) :
    (grammar.link parent key child).1.sameStore a b = true ∨ a = b ↔
      Relation.EqvGen (fun a b => grammar.CaptureAdjacent edges a b ∨
        grammar.storeAt parent = some a ∧ grammar.storeAt child = some b) a b := by
  have hbefore := hshares.sameStore_iff a b
  rw [sameStore] at hbefore ⊢
  rw [stores_link]
  cases hparent : grammar.storeAt parent with
  | none => simpa using hbefore
  | some own =>
      cases hchild : grammar.storeAt child with
      | none => simpa using hbefore
      | some other =>
          have hknown : grammar.stores.contains own = true ∧
              grammar.stores.contains other = true :=
            ⟨hwf.stores_known parent own hparent, hwf.stores_known child other hchild⟩
          have hpair : ∀ a b, some own = some a ∧ some other = some b ↔
              (a, b) ∈ grammar.stores.pairsOf (.unify own other) := by
            intro a b
            simp [StoreTable.pairsOf, hknown, eq_comm (a := a), eq_comm (a := b)]
          simp only [hpair]
          exact hshares.isUnified_call_iff hgrounded (.unify own other) a b

theorem link (hshares : grammar.SharesAlong edges) (hgrounded : grammar.stores.Grounded)
    (hwf : grammar.WellFormed) {parent child : Nat} (key : String)
    (hparent : parent < grammar.nodes.size) (hchild : child < grammar.nodes.size) :
    (grammar.link parent key child).1.SharesAlong (edges ++ [(parent, child)]) := by
  refine ⟨fun edge hedge => ?_, fun source target hedge => ?_, fun a b => ?_⟩
  · rw [size_link]
    rcases List.mem_append.mp hedge with hedge | hedge
    · exact hshares.bounded edge hedge
    · obtain rfl := List.mem_singleton.mp hedge
      exact ⟨hparent, hchild⟩
  · rcases edge_of_edge_link hedge with hedge | ⟨rfl, rfl⟩
    · exact List.mem_append_left _ (hshares.covers source target hedge)
    · exact List.mem_append_right _ (List.mem_singleton_self _)
  · have hadjacent : ∀ a b, (grammar.link parent key child).1.CaptureAdjacent
        (edges ++ [(parent, child)]) a b ↔ grammar.CaptureAdjacent edges a b ∨
          grammar.storeAt parent = some a ∧ grammar.storeAt child = some b := by
      intro a b
      rw [captureAdjacent_append]
      simp only [CaptureAdjacent, storeAt_link, List.mem_singleton, exists_eq_left]
    rw [hshares.sameStore_link_iff hgrounded hwf]
    simp only [funext₂ fun a b => propext (hadjacent a b)]

/-- Construction keeps account of the edges that it draws. -/
theorem draws (hshares : grammar.SharesAlong edges) (hgrounded : grammar.stores.Grounded)
    (hwf : grammar.WellFormed) {other : Grammar R} {more : List (Nat × Nat)}
    (hdraws : grammar.Draws more other) : other.SharesAlong (edges ++ more) := by
  induction hdraws generalizing edges with
  | refl grammar => simpa using hshares
  | store grammar => simpa using hshares.newStore hgrounded
  | node grammar spec store hstore =>
      rw [List.append_nil]
      exact hshares.push_bare spec store
  | edge grammar parent key child hparent hchild =>
      exact hshares.link hgrounded hwf key hparent hchild
  | trans hfirst hsecond ihFirst ihSecond =>
      have hsteps := hfirst.grows
      rw [← List.append_assoc]
      exact ihSecond (ihFirst hshares hgrounded hwf) (grounded_of_steps hsteps hgrounded)
        (hwf.of_steps hsteps)

end SharesAlong

/-! ## Operations that unify nothing -/

/-- Attaching several children at once never unifies: capturing nodes do not take them. -/
theorem stores_attachMany {parent : NodeRef} {children : List (String × NodeRef)}
    {change : Change R Unit} (hattach : grammar.attachMany parent children = .ok change) :
    change.grammar.stores = grammar.stores := by
  obtain ⟨_, rfl⟩ | ⟨index, node, _, _, hparent, _, hcapturing, _, rfl⟩ :=
    attachMany_eq_ok hattach
  · rfl
  · have hsilent : grammar.storeAt index = none := by
      rw [storeAt, hparent, Option.bind_some]
      simpa [Node.isCapturing] using hcapturing
    -- A node that does not capture is linked without touching the stores.
    exact stores_linkAll_of_unifiedAt fun _ _ own _ hown => by simp [hsilent] at hown

end Grammar

/-- The operations that can draw an edge between two capturing nodes: a template is built node by
node. -/
def Operation.unifies : Operation R → Bool
  | .build _ | .attach .. | .installSelect .. => true
  | _ => false

namespace Dispatcher

variable {dispatcher : Dispatcher R}

theorem sameStore_perform {operation : Operation R} (hkind : operation.unifies = false)
    (hgrounded : dispatcher.grammar.stores.Grounded) {a b : StoreRef}
    (ha : dispatcher.grammar.stores.contains a = true)
    (hb : dispatcher.grammar.stores.contains b = true) :
    (dispatcher.perform operation).dispatcher.grammar.sameStore a b =
      dispatcher.grammar.sameStore a b := by
  cases operation with
  | createStore =>
      have hresolve : ∀ store, dispatcher.grammar.stores.contains store = true →
          dispatcher.grammar.stores.create.2.resolve store =
            dispatcher.grammar.stores.resolve store :=
        fun _ hknown => StoreTable.resolve_create_of_contains hgrounded hknown
      have hafter : (dispatcher.perform .createStore).dispatcher.grammar.stores =
          dispatcher.grammar.stores.create.2 := rfl
      simp only [Grammar.sameStore, hafter, StoreTable.isUnified, hresolve a ha, hresolve b hb]
  | attachMany parent children =>
      cases hattach : dispatcher.grammar.attachMany parent children with
      | error fault => simp only [perform, hattach, performChange]
      | ok change =>
          simp only [perform, hattach, performChange, Grammar.sameStore,
            Grammar.stores_attachMany hattach]
  | register root => rw [perform, grammar_performEntry_register]
  | registerAs name root => rw [perform, grammar_performEntry_registerAs]
  | setTokenizer strategy source => rw [perform, grammar_performTokenizer]
  | build spec => simp [Operation.unifies] at hkind
  | attach parent child => simp [Operation.unifies] at hkind
  | installSelect store callbacks => simp [Operation.unifies] at hkind
  | advance | clearFrom | clearAll | run | runTokens =>
      exact (dispatcher.perform_sameStructure rfl).grammar.sameStore_eq a b

/-! ## Sessions -/

/-- All edges that the operations of a session draw, in order. -/
def edgesDrawnAll (dispatcher : Dispatcher R) : List (Operation R) → List (Nat × Nat)
  | [] => []
  | operation :: rest =>
    dispatcher.edgesDrawn operation ++ (dispatcher.perform operation).dispatcher.edgesDrawnAll rest

theorem Reachable.sharesAlong_perform (hreach : dispatcher.Reachable)
    {edges : List (Nat × Nat)} (hshares : dispatcher.grammar.SharesAlong edges)
    (operation : Operation R) :
    (dispatcher.perform operation).dispatcher.grammar.SharesAlong
      (edges ++ dispatcher.edgesDrawn operation) := by
  cases hkind : operation.recordsOrClears with
  | true =>
      have hnone : dispatcher.edgesDrawn operation = [] := by
        cases operation <;> first | rfl | simp [Operation.recordsOrClears] at hkind
      rw [hnone, List.append_nil]
      exact hshares.of_sameStructure (dispatcher.perform_sameStructure hkind).grammar
  | false => exact hshares.draws hreach.grounded hreach.wellFormed (dispatcher.perform_draws hkind)

theorem Reachable.sharesAlong_afterAll (hreach : dispatcher.Reachable)
    {edges : List (Nat × Nat)} (hshares : dispatcher.grammar.SharesAlong edges)
    (operations : List (Operation R)) :
    (dispatcher.afterAll operations).grammar.SharesAlong
      (edges ++ dispatcher.edgesDrawnAll operations) := by
  induction operations generalizing dispatcher edges with
  | nil =>
      rw [edgesDrawnAll, List.append_nil]
      exact hshares
  | cons operation rest ih =>
      have hstep := hreach.sharesAlong_perform hshares operation
      rw [edgesDrawnAll, ← List.append_assoc]
      exact ih (hreach.step operation) hstep

/-- After any session, two handles read the same captures if and only if both were given out and
the least equivalence relates them that relates the two stores of every edge ever drawn between
capturing nodes, whatever operation drew it and whether or not it was replaced since. So every
edge between capturing nodes that there is now joins nodes of one logical store, and an operation
other than building and attaching a single child leaves it as it was which handles read the same
captures. -/
theorem sameStore_iff_captureAdjacent (tokenizer : Tokenizer) (operations : List (Operation R)) :
    let start : Dispatcher R := { tokenizer }
    let grammar := (start.afterAll operations).grammar
    (∀ a b, grammar.sameStore a b = true ↔
      grammar.stores.contains a = true ∧ grammar.stores.contains b = true ∧
        Relation.EqvGen (grammar.CaptureAdjacent (start.edgesDrawnAll operations)) a b) ∧
    (∀ source target parentStore childStore, grammar.Edge source target →
      grammar.storeAt source = some parentStore → grammar.storeAt target = some childStore →
        grammar.sameStore parentStore childStore = true) ∧
    ∀ operation : Operation R, operation.unifies = false → ∀ a b,
      grammar.stores.contains a = true → grammar.stores.contains b = true →
        ((start.afterAll operations).perform operation).dispatcher.grammar.sameStore a b =
          grammar.sameStore a b := by
  intro start grammar
  have hreach : (start.afterAll operations).Reachable := (Reachable.start tokenizer).afterAll _
  have hgrounded : grammar.stores.Grounded := hreach.grounded
  have hshares : grammar.SharesAlong (start.edgesDrawnAll operations) :=
    (Reachable.start tokenizer).sharesAlong_afterAll .empty operations
  have hrelated : ∀ a b, grammar.stores.contains a = true →
      Relation.EqvGen (grammar.CaptureAdjacent (start.edgesDrawnAll operations)) a b →
        grammar.sameStore a b = true := by
    intro a b ha hadjacent
    rcases (hshares.sameStore_iff a b).mpr hadjacent with hsame | rfl
    · exact hsame
    · exact hgrounded.isUnified_self ha
  refine ⟨fun a b => ⟨fun hsame => ?_, fun hboth => hrelated a b hboth.1 hboth.2.2⟩, ?_, ?_⟩
  · obtain ⟨ha, hb⟩ := StoreTable.contains_of_isUnified hsame
    exact ⟨ha, hb, (hshares.sameStore_iff a b).mp (.inl hsame)⟩
  · intro source target parentStore childStore hedge hsource htarget
    have hknown := hreach.wellFormed.stores_known source parentStore hsource
    exact hrelated parentStore childStore hknown
      (.rel _ _ ⟨(source, target), hshares.covers source target hedge, hsource, htarget⟩)
  · intro operation hkind a b ha hb
    exact sameStore_perform hkind hgrounded ha hb

/-- A wildcard child that is replaced stays unified with the node and with its successor. -/
example :
    let replaced := nameShower.afterAll [.build (.capturing wildcard),
      .attach (.stored 2) (.stored 3)]
    replaced.grammar.nodes[2]?.bind (·.child? wildcard) = some 3 ∧
      replaced.grammar.sameStore ⟨1⟩ ⟨2⟩ = true := by decide

end Dispatcher

end CommandGrammar
