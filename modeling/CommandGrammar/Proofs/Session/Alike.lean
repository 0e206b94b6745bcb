import CommandGrammar.Proofs.Session.Invariant
import CommandGrammar.Proofs.Store.Alike

/-! # Dispatchers that answer alike

Two dispatchers with the same nodes, whose stores read alike, cannot be told apart: every operation
gives the same answer and the same trace on both, and leaves behind two dispatchers of this kind
again. So a whole session cannot tell them apart either, also one that goes on to unify, to capture
directly or to build. Each operation has its lemma here, from the single edge to the session.
-/

namespace CommandGrammar

variable {R : Type}

/-- The same nodes, and stores that read alike. -/
structure Grammar.Alike (left right : Grammar R) : Prop where
  nodes_eq : left.nodes = right.nodes
  stores : left.stores.Alike right.stores

/-- The same value and the same trace, and grammars that are alike. -/
structure Change.Alike {α : Type} (left right : Change R α) : Prop where
  value_eq : left.value = right.value
  trace_eq : left.trace = right.trace
  grammar : left.grammar.Alike right.grammar

namespace Grammar

/-- Both changes are refused with the same error, or both are made and are alike. -/
inductive AlikeResults {α : Type} :
    Except Error (Change R α) → Except Error (Change R α) → Prop
  | refused (error : Error) : AlikeResults (.error error) (.error error)
  | changed {left right : Change R α} (halike : left.Alike right) :
      AlikeResults (.ok left) (.ok right)

namespace Alike

variable {left right : Grammar R}

/-! ## What reads the nodes alone -/

theorem node?_eq (halike : left.Alike right) (node : NodeRef) :
    left.node? node = right.node? node := by
  cases node with
  | notFound => rfl
  | stored index => simp only [node?, halike.nodes_eq]

theorem lookup_eq (halike : left.Alike right) : left.lookup = right.lookup := by
  funext node token
  simp only [lookup, halike.node?_eq]

theorem isExecutable_eq (halike : left.Alike right) (node : NodeRef) :
    left.isExecutable node = right.isExecutable node := by
  simp only [isExecutable, halike.node?_eq]

theorem nameAt_eq (halike : left.Alike right) : left.nameAt = right.nameAt := by
  funext index
  simp only [nameAt, halike.nodes_eq]

theorem storeAt_eq (halike : left.Alike right) : left.storeAt = right.storeAt := by
  funext index
  simp only [storeAt, halike.nodes_eq]

theorem edge_eq (halike : left.Alike right) : left.Edge = right.Edge := by
  funext source target
  simp only [Edge, halike.nodes_eq]

theorem place?_eq (halike : left.Alike right) (node : NodeRef) :
    left.place? node = right.place? node := by
  cases node with
  | notFound => rfl
  | stored index => simp only [place?, halike.nodes_eq]

theorem places_eq (halike : left.Alike right) (nodes : List NodeRef) :
    left.places nodes = right.places nodes := by
  induction nodes with
  | nil => rfl
  | cons node rest ih => simp only [places, halike.place?_eq, ih]

/-! ## What reads the stores -/

theorem sameStore_eq (halike : left.Alike right) (a b : StoreRef) :
    left.sameStore a b = right.sameStore a b :=
  halike.stores.isUnified_eq a b

theorem captured_eq (halike : left.Alike right) (store : StoreRef) :
    left.captured store = right.captured store :=
  halike.stores.values_eq store

theorem execute_eq (halike : left.Alike right) (node : NodeRef) :
    left.execute node = right.execute node := by
  have hview : left.captures = right.captures :=
    congrArg Captures.mk (funext halike.captured_eq)
  rw [execute, execute, halike.node?_eq, hview]

theorem capturesBelow_iff (halike : left.Alike right) (root : NodeRef) (store : StoreRef) :
    left.CapturesBelow root store ↔ right.CapturesBelow root store := by
  simp only [CapturesBelow, Reaches, halike.edge_eq, halike.storeAt_eq, halike.sameStore_eq]

/-! ## Construction -/

theorem newStore (halike : left.Alike right) : left.newStore.2.Alike right.newStore.2 :=
  ⟨halike.nodes_eq, halike.stores.create⟩

theorem link (halike : left.Alike right) (parent : Nat) (key : String) (child : Nat) :
    (left.link parent key child).1.Alike (right.link parent key child).1 := by
  refine ⟨by rw [nodes_link, nodes_link, halike.nodes_eq], ?_⟩
  rw [stores_link, stores_link, halike.storeAt_eq]
  cases right.storeAt parent with
  | none => exact halike.stores
  | some own =>
      cases right.storeAt child with
      | none => exact halike.stores
      | some other => exact halike.stores.unify own other

theorem link_snd_eq (halike : left.Alike right) (parent : Nat) (key : String) (child : Nat) :
    (left.link parent key child).2 = (right.link parent key child).2 := by
  rw [Grammar.link, Grammar.link, halike.nodes_eq]
  cases right.nodes[parent]? <;> rfl

/-- Edges are drawn one by one, and each finds grammars that are alike. -/
theorem linkAll (halike : left.Alike right) (parent : Nat) (children : List (String × Nat)) :
    (left.linkAll parent children).1.Alike (right.linkAll parent children).1 ∧
      (left.linkAll parent children).2 = (right.linkAll parent children).2 := by
  induction children generalizing left right with
  | nil => exact ⟨halike, rfl⟩
  | cons entry rest ih =>
      obtain ⟨hgrammar, htrace⟩ := ih (halike.link parent entry.1 entry.2)
      exact ⟨hgrammar, congrArg₂ (· ++ ·) (halike.link_snd_eq parent entry.1 entry.2) htrace⟩

theorem push (halike : left.Alike right) (node : Node R) {stores others : StoreTable}
    (hstores : stores.Alike others) :
    Alike ⟨left.nodes.push node, stores⟩ ⟨right.nodes.push node, others⟩ :=
  ⟨by rw [halike.nodes_eq], hstores⟩

/-- The wired node that a description gives rise to is the same in both grammars. -/
theorem build_of_stores (halike : left.Alike right) (spec : NodeSpec R) (store : Option StoreRef)
    {stores others : StoreTable} (hstores : stores.Alike others) (children : List Nat) :
    let linked := linkNamed ⟨left.nodes.push (spec.bare store), stores⟩ left.nodes.size children
    let linked' := linkNamed ⟨right.nodes.push (spec.bare store), others⟩ right.nodes.size children
    linked.1.Alike linked'.1 ∧ linked.2 = linked'.2 := by
  have hpushed := halike.push (spec.bare store) hstores
  simp only [linkNamed, halike.nodes_eq] at hpushed ⊢
  exact hpushed.linkAll _ _

theorem resolveTarget (halike : left.Alike right) (target : CaptureTarget) :
    (∃ fault, left.resolveTarget target = .error fault ∧
        right.resolveTarget target = .error fault) ∨
      ∃ store stores others, left.resolveTarget target = .ok (store, stores) ∧
        right.resolveTarget target = .ok (store, others) ∧ stores.Alike others := by
  cases target with
  | nowhere => exact .inr ⟨none, _, _, rfl, rfl, halike.stores⟩
  | fresh =>
      have hstore := halike.stores.create_fst_eq
      refine .inr ⟨some left.stores.create.1, _, _, rfl, ?_, halike.stores.create⟩
      rw [hstore]
      rfl
  | into store =>
      have hcontains := halike.stores.contains_eq store
      cases hknown : right.stores.contains store with
      | true =>
          refine .inr ⟨some store, left.stores, right.stores, ?_, ?_, halike.stores⟩ <;>
            simp [Grammar.resolveTarget, hcontains, hknown]
      | false =>
          refine .inl ⟨.unknownStore store, ?_, ?_⟩ <;>
            simp [Grammar.resolveTarget, hcontains, hknown]

theorem build (halike : left.Alike right) (spec : NodeSpec R) :
    AlikeResults (left.build spec) (right.build spec) := by
  unfold Grammar.build
  rw [halike.places_eq]
  cases right.places spec.children with
  | error fault => exact .refused fault
  | ok children =>
      rcases halike.resolveTarget spec.target with ⟨fault, hleft, hright⟩ |
        ⟨store, stores, others, hleft, hright, hstores⟩
      · simp only [hleft, hright, bind, Except.bind]
        exact .refused fault
      · obtain ⟨hgrammar, htrace⟩ := halike.build_of_stores spec store hstores children
        have hplace : NodeRef.stored left.nodes.size = .stored right.nodes.size := by
          rw [halike.nodes_eq]
        simp only [hleft, hright, bind, Except.bind]
        refine .changed ⟨hplace, ?_, hgrammar⟩
        exact congrArg₂ (fun trace node => trace ++ [Event.builtNode node spec.name]) htrace hplace

theorem attach (halike : left.Alike right) (parent child : NodeRef) :
    AlikeResults (left.attach parent child) (right.attach parent child) := by
  cases parent with
  | notFound => exact .changed ⟨rfl, rfl, halike⟩
  | stored parentIndex =>
      simp only [Grammar.attach, halike.place?_eq, halike.nodes_eq, halike.nameAt_eq]
      cases right.place? child with
      | none => exact .refused _
      | some childIndex =>
          cases right.nodes[parentIndex]? with
          | none => exact .refused _
          | some node =>
              dsimp only
              split
              · exact .refused _
              · exact .changed ⟨rfl, halike.link_snd_eq parentIndex _ childIndex,
                  halike.link parentIndex _ childIndex⟩

theorem attachMany (halike : left.Alike right) (parent : NodeRef)
    (children : List (String × NodeRef)) :
    AlikeResults (left.attachMany parent children) (right.attachMany parent children) := by
  cases parent with
  | notFound => exact .changed ⟨rfl, rfl, halike⟩
  | stored parentIndex =>
      simp only [Grammar.attachMany, halike.nodes_eq, halike.places_eq]
      cases right.nodes[parentIndex]? with
      | none => exact .refused _
      | some node =>
          dsimp only
          split
          · exact .refused _
          · split
            · exact .refused _
            · cases right.places (children.map (·.2)) with
              | error fault => exact .refused fault
              | ok indices =>
                  obtain ⟨hgrammar, htrace⟩ :=
                    halike.linkAll parentIndex ((children.map (·.1)).zip indices)
                  exact .changed ⟨rfl, htrace, hgrammar⟩

/-! ## Recording and clearing -/

theorem advance (halike : left.Alike right) (node : NodeRef) (token : String) :
    (left.advance node token).Alike (right.advance node token) := by
  rw [Grammar.advance, Grammar.advance, halike.node?_eq]
  cases right.node? node with
  | none => exact ⟨rfl, rfl, halike⟩
  | some found =>
      dsimp only
      cases found.step? token with
      | none => exact ⟨rfl, rfl, halike⟩
      | some step =>
          dsimp only
          cases found.store with
          | none => exact ⟨rfl, rfl, halike⟩
          | some own =>
              cases step.2 with
              | false => exact ⟨rfl, rfl, halike⟩
              | true =>
                  have htrace := halike.stores.push_snd_eq own token
                  exact ⟨rfl, congrArg (Event.capturedToken found.name token :: ·) htrace,
                    halike.nodes_eq, halike.stores.push own token⟩

/-- Both walks take the same turns, and each step finds grammars that are alike. -/
theorem walk (halike : left.Alike right) (node : NodeRef) (position : Nat) (token : String)
    (rest : List String) :
    (left.walk node position token rest).Alike (right.walk node position token rest) := by
  induction rest generalizing left right node position token with
  | nil =>
      cases node with
      | notFound => exact ⟨rfl, rfl, halike⟩
      | stored index =>
          rw [walk_stored_nil, walk_stored_nil, halike.execute_eq, halike.isExecutable_eq]
          exact ⟨rfl, rfl, halike⟩
  | cons next rest ih =>
      cases node with
      | notFound => exact ⟨rfl, rfl, halike⟩
      | stored index =>
          by_cases hnowhere : left.lookup (.stored index) next = .notFound
          · have hnowhere' : right.lookup (.stored index) next = .notFound := by
              rw [← halike.lookup_eq, hnowhere]
            rw [walk_stored_of_nowhere hnowhere, walk_stored_of_nowhere hnowhere',
              halike.execute_eq, halike.isExecutable_eq]
            exact ⟨rfl, rfl, halike⟩
          · have hleads' : right.lookup (.stored index) next ≠ .notFound := by
              rwa [← halike.lookup_eq]
            have hstep := halike.advance (.stored index) next
            have hrest := ih hstep.grammar (left.advance (.stored index) next).value
              (position + 1) next
            rw [walk_stored_of_leads hnowhere, walk_stored_of_leads hleads',
              halike.isExecutable_eq, ← hstep.value_eq, hstep.trace_eq, hrest.trace_eq]
            exact ⟨hrest.value_eq, rfl, hrest.grammar⟩

theorem clearCaptures (halike : left.Alike right) (root : NodeRef) :
    (left.clearCaptures root).Alike (right.clearCaptures root) := by
  refine ⟨halike.nodes_eq, halike.stores.of_sameShape
    (left.clearCaptures_sameStructure root).stores (right.clearCaptures_sameStructure root).stores
    fun store => ?_⟩
  have hiff := halike.capturesBelow_iff root store
  by_cases hbelow : left.CapturesBelow root store
  · exact (captured_clearCaptures_of_below hbelow).trans
      (captured_clearCaptures_of_below (hiff.mp hbelow)).symm
  · have hkept := captured_clearCaptures_of_not_below hbelow
    have hkept' := captured_clearCaptures_of_not_below (mt hiff.mpr hbelow)
    exact hkept.trans ((halike.captured_eq store).trans hkept'.symm)

end Alike

end Grammar

open Grammar

/-! ## The template -/

theorem Select.buildAll_alike {left right : Grammar R} (halike : left.Alike right)
    (specs : List (NodeSpec R)) : (buildAll left specs).Alike (buildAll right specs) := by
  induction specs generalizing left right with
  | nil => exact ⟨rfl, rfl, halike⟩
  | cons spec rest ih =>
      have hbuilds := halike.build spec
      unfold buildAll
      generalize left.build spec = leftResult at hbuilds ⊢
      generalize right.build spec = rightResult at hbuilds ⊢
      cases hbuilds with
      | refused fault => exact ⟨rfl, rfl, halike⟩
      | changed hbuilt =>
          have hrest := ih hbuilt.grammar
          exact ⟨hrest.value_eq, congrArg₂ (· ++ ·) hbuilt.trace_eq hrest.trace_eq, hrest.grammar⟩

theorem Select.install_alike {left right : Grammar R} (halike : left.Alike right)
    (store : StoreRef) (callbacks : List (Callback R)) :
    (install left store callbacks).Alike (install right store callbacks) := by
  have hsize : left.size = right.size := congrArg Array.size halike.nodes_eq
  unfold install
  cases Callbacks.ofList? callbacks with
  | none => exact ⟨rfl, rfl, halike⟩
  | some callbacks =>
      have hbuilt := buildAll_alike halike (specs store callbacks right.size)
      simp only [hsize]
      exact ⟨congrArg (Except.map _) hbuilt.value_eq, congrArg (_ ++ ·) hbuilt.trace_eq,
        hbuilt.grammar⟩

namespace Dispatcher

/-- Dispatchers whose grammars are alike, with the same entries and the same tokenizer. -/
structure Alike (left right : Dispatcher R) : Prop where
  grammar : left.grammar.Alike right.grammar
  entries_eq : left.entries = right.entries
  tokenizer_eq : left.tokenizer = right.tokenizer

/-- The same outcome and the same trace, and dispatchers that are alike. -/
structure AlikeRuns (left right : Run R) : Prop where
  outcome_eq : left.outcome = right.outcome
  trace_eq : left.trace = right.trace
  dispatcher : left.dispatcher.Alike right.dispatcher

/-- The same answer and the same trace, and dispatchers that are alike. -/
structure AlikeAnswers (left right : Performed R) : Prop where
  response_eq : left.response = right.response
  trace_eq : left.trace = right.trace
  dispatcher : left.dispatcher.Alike right.dispatcher

namespace Alike

variable {left right : Dispatcher R}

theorem with_grammar (halike : left.Alike right) {leftGrammar rightGrammar : Grammar R}
    (hgrammar : leftGrammar.Alike rightGrammar) :
    Alike { left with grammar := leftGrammar } { right with grammar := rightGrammar } :=
  ⟨hgrammar, halike.entries_eq, halike.tokenizer_eq⟩

theorem entry_eq (halike : left.Alike right) : left.entry = right.entry := by
  funext name
  simp only [entry, halike.entries_eq]

theorem resolve_eq (halike : left.Alike right) (tokens : List String) :
    left.resolve tokens = right.resolve tokens := by
  cases tokens with
  | nil => rfl
  | cons first rest => simp only [resolve, halike.entry_eq, halike.grammar.lookup_eq]

/-! ## Operations -/

theorem runTokens (halike : left.Alike right) (tokens : List String) :
    AlikeRuns (left.runTokens tokens) (right.runTokens tokens) := by
  cases tokens with
  | nil => exact ⟨rfl, rfl, halike⟩
  | cons first rest =>
      have hwalk := halike.grammar.walk (right.entry first) 0 first rest
      have hafter := halike.with_grammar (hwalk.grammar.clearCaptures (right.entry first))
      simp only [Dispatcher.runTokens, halike.entry_eq, hwalk.value_eq, hwalk.trace_eq]
      cases (right.grammar.walk (right.entry first) 0 first rest).value with
      | none => exact ⟨rfl, rfl, hafter⟩
      | some value => exact ⟨rfl, rfl, hafter⟩

theorem run (halike : left.Alike right) (command : String) :
    AlikeRuns (left.run command) (right.run command) := by
  have hran := halike.runTokens (right.tokenizer.tokenize command)
  simp only [Dispatcher.run, halike.tokenizer_eq]
  exact ⟨hran.outcome_eq, congrArg (_ :: ·) hran.trace_eq, hran.dispatcher⟩

theorem clearCaptures (halike : left.Alike right) :
    left.clearCaptures.Alike right.clearCaptures := by
  refine halike.with_grammar ?_
  rw [halike.entries_eq]
  exact List.foldl_rel halike.grammar fun index _ _ _ hgrammar =>
    hgrammar.clearCaptures (.stored index)

theorem performChange (halike : left.Alike right) {α : Type} (respond : α → Response R)
    {leftResult rightResult : Except Error (Change R α)}
    (hresults : AlikeResults leftResult rightResult) :
    AlikeAnswers (left.performChange respond leftResult)
      (right.performChange respond rightResult) := by
  cases hresults with
  | refused error => exact ⟨rfl, rfl, halike⟩
  | changed hchange =>
      exact ⟨congrArg respond hchange.value_eq, hchange.trace_eq,
        halike.with_grammar hchange.grammar⟩

theorem registerAs (halike : left.Alike right) (name : String) (root : NodeRef) :
    AlikeAnswers (left.performEntry (left.registerAs name root))
      (right.performEntry (right.registerAs name root)) := by
  simp only [Dispatcher.registerAs, halike.grammar.place?_eq]
  cases right.grammar.place? root with
  | none => exact ⟨rfl, rfl, halike⟩
  | some index =>
      exact ⟨rfl, rfl, halike.grammar, congrArg (·.insert name index) halike.entries_eq,
        halike.tokenizer_eq⟩

theorem register (halike : left.Alike right) (root : NodeRef) :
    AlikeAnswers (left.performEntry (left.register root))
      (right.performEntry (right.register root)) := by
  simp only [Dispatcher.register, halike.grammar.node?_eq]
  cases right.grammar.node? root with
  | none => exact ⟨rfl, rfl, halike⟩
  | some node => exact halike.registerAs node.name root

/-- Every operation is answered alike. -/
theorem perform (halike : left.Alike right) (operation : Operation R) :
    AlikeAnswers (left.perform operation) (right.perform operation) := by
  cases operation with
  | createStore =>
      exact ⟨congrArg Response.store halike.grammar.stores.create_fst_eq, rfl,
        halike.with_grammar halike.grammar.newStore⟩
  | build spec => exact halike.performChange _ (halike.grammar.build spec)
  | attach parent child =>
      exact halike.performChange (fun _ => .done) (halike.grammar.attach parent child)
  | attachMany parent children =>
      exact halike.performChange (fun _ => .done) (halike.grammar.attachMany parent children)
  | installSelect store callbacks =>
      have hinstalled := Select.install_alike halike.grammar store callbacks
      refine ⟨?_, hinstalled.trace_eq, halike.with_grammar hinstalled.grammar⟩
      simp only [Dispatcher.perform, hinstalled.value_eq]
  | advance node token =>
      exact halike.performChange _ (.changed (halike.grammar.advance node token))
  | clearFrom root =>
      exact ⟨rfl, rfl, halike.with_grammar (halike.grammar.clearCaptures root)⟩
  | clearAll => exact ⟨rfl, rfl, halike.clearCaptures⟩
  | register root => exact halike.register root
  | registerAs name root => exact halike.registerAs name root
  | run command =>
      have hran := halike.run command
      exact ⟨congrArg Response.outcome hran.outcome_eq, hran.trace_eq, hran.dispatcher⟩
  | runTokens tokens =>
      have hran := halike.runTokens tokens
      exact ⟨congrArg Response.outcome hran.outcome_eq, hran.trace_eq, hran.dispatcher⟩
  | setTokenizer strategy source =>
      simp only [Dispatcher.perform]
      cases (Tokenizer.make .empty strategy source).1 with
      | ok tokenizer => exact ⟨rfl, rfl, halike.grammar, halike.entries_eq, rfl⟩
      | error fault => exact ⟨rfl, rfl, halike⟩

/-! ## Sessions -/

theorem afterAll (halike : left.Alike right) (operations : List (Operation R)) :
    (left.afterAll operations).Alike (right.afterAll operations) :=
  List.foldl_rel halike fun operation _ _ _ hcurrent => (hcurrent.perform operation).dispatcher

/-- A session cannot tell the dispatchers apart. -/
theorem performAll (halike : left.Alike right) (operations : List (Operation R)) :
    (left.performAll operations).map (·.response) =
        (right.performAll operations).map (·.response) ∧
      (left.performAll operations).map (·.trace) =
        (right.performAll operations).map (·.trace) := by
  induction operations generalizing left right with
  | nil => exact ⟨rfl, rfl⟩
  | cons operation rest ih =>
      have hfirst := halike.perform operation
      obtain ⟨hresponses, htraces⟩ := ih hfirst.dispatcher
      exact ⟨congrArg₂ List.cons hfirst.response_eq hresponses,
        congrArg₂ List.cons hfirst.trace_eq htraces⟩

end Alike

end Dispatcher

end CommandGrammar
