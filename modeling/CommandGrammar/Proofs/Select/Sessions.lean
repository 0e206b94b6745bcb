import CommandGrammar.Proofs.Select.Statements

/-! # Sessions with the SELECT template

Wherever a session has led to, the template can be installed into any store that exists. From then
on until something else is constructed, commands that begin with `select` run exactly the
statements of the template.
-/

namespace CommandGrammar

variable {R : Type}

/-- The operations that add to a grammar or to the entries. -/
def Operation.constructs : Operation R → Bool
  | .createStore | .build _ | .attach .. | .attachMany .. | .installSelect .. | .register _
  | .registerAs .. => true
  | _ => false

/-- The operation registers the node as the entry of commands that begin with `select`, if that is
the name of the node. -/
def Operation.EntersSelect (root : NodeRef) (operation : Operation R) : Prop :=
  operation = .register root ∨ operation = .registerAs "select" root

namespace Dispatcher

/-- An operation that constructs nothing changes at most captured tokens and the tokenizer. -/
theorem perform_of_not_constructs (dispatcher : Dispatcher R) {operation : Operation R}
    (hkind : operation.constructs = false) :
    (dispatcher.perform operation).dispatcher.grammar.SameStructure dispatcher.grammar ∧
      (dispatcher.perform operation).dispatcher.entries = dispatcher.entries := by
  cases hcaptures : operation.recordsOrClears with
  | true =>
      have hsame := dispatcher.perform_sameStructure hcaptures
      exact ⟨hsame.grammar, hsame.entries_eq⟩
  | false =>
      cases operation with
      | setTokenizer strategy source =>
          rw [perform, grammar_performTokenizer, entries_performTokenizer]
          exact ⟨.refl _, rfl⟩
      | _ => simp [Operation.recordsOrClears, Operation.constructs] at hcaptures hkind

theorem afterAll_of_not_constructs (dispatcher : Dispatcher R) {operations : List (Operation R)}
    (hkind : ∀ operation ∈ operations, operation.constructs = false) :
    (dispatcher.afterAll operations).grammar.SameStructure dispatcher.grammar ∧
      (dispatcher.afterAll operations).entries = dispatcher.entries := by
  induction operations generalizing dispatcher with
  | nil => exact ⟨.refl _, rfl⟩
  | cons operation rest ih =>
      obtain ⟨hoperation, hrest⟩ := List.forall_mem_cons.mp hkind
      obtain ⟨hsame, hentries⟩ := dispatcher.perform_of_not_constructs hoperation
      obtain ⟨hsames, hall⟩ := ih (dispatcher.perform operation).dispatcher hrest
      exact ⟨hsames.trans hsame, hall.trans hentries⟩

end Dispatcher

namespace Select

/-- The dispatcher runs statements: `select` leads into the template. -/
structure Ready (dispatcher : Dispatcher R) (store : StoreRef) (callbacks : Callbacks R)
    (base : Nat) : Prop where
  entry_eq : dispatcher.entry "select" = .stored (base + rootOffset)
  wired : Wired dispatcher.grammar store callbacks base

namespace Ready

variable {dispatcher : Dispatcher R} {store : StoreRef} {callbacks : Callbacks R} {base : Nat}

theorem executes (hready : Ready dispatcher store callbacks base)
    (hempty : dispatcher.grammar.captured store = []) {statement : Statement} {rest : List String}
    (hordered : statement.Ordered) (hclosed : statement.ClosedBy rest) :
    (dispatcher.runTokens (statement.tokens ++ rest)).outcome =
      .executed (callbacks.at statement.last statement.values) := by
  have harrives := hready.wired.arrive_statement hordered hclosed
  rw [← hready.entry_eq] at harrives
  obtain ⟨node, hnode, haction⟩ := hready.wired.slot_runs statement.last
  exact Dispatcher.runTokens_of_arrives hempty harrives hnode haction

theorem rejects (hready : Ready dispatcher store callbacks base) {tokens : List String}
    (hselect : tokens.head? = some "select")
    (hnone : ∀ (statement : Statement) (rest : List String), statement.Ordered →
      statement.ClosedBy rest → tokens ≠ statement.tokens ++ rest) :
    (dispatcher.runTokens tokens).outcome = .unmatched ⟨tokens.getLastD ""⟩ ∧
      (dispatcher.runTokens tokens).trace.executions = [] := by
  obtain ⟨rest, rfl⟩ := List.head?_eq_some_iff.mp hselect
  rcases hready.wired.statement_or_idle rest with
    ⟨statement, closing, hordered, hclosed, htokens⟩ | hidle
  · exact absurd htokens (hnone statement closing hordered hclosed)
  · rw [← hready.entry_eq] at hidle
    rw [List.getLastD_cons]
    exact Dispatcher.runTokens_of_arrives_idle hidle

end Ready

end Select

namespace Dispatcher

open Select

/-- Registering a stored node under a name. -/
theorem perform_registerAs (dispatcher : Dispatcher R) (name : String) {index : Nat}
    {node : Node R} (hnode : dispatcher.grammar.nodes[index]? = some node) :
    (dispatcher.perform (.registerAs name (.stored index))).response = .done ∧
      (dispatcher.perform (.registerAs name (.stored index))).dispatcher =
        { dispatcher with entries := dispatcher.entries.insert name index } := by
  obtain ⟨hbound, rfl⟩ := Array.getElem?_eq_some_iff.mp hnode
  simp [perform, registerAs, performEntry, Grammar.place?, hbound]

/-- A node is registered under the name that it has. -/
theorem perform_register (dispatcher : Dispatcher R) {index : Nat} {node : Node R}
    (hnode : dispatcher.grammar.nodes[index]? = some node) :
    dispatcher.perform (.register (.stored index)) =
      dispatcher.perform (.registerAs node.name (.stored index)) := by
  simp only [perform, register, Grammar.node?, hnode]

/-- Either way of registering the node of statements makes it the entry of `select`. -/
theorem perform_entersSelect (dispatcher : Dispatcher R) {index : Nat} {node : Node R}
    (hnode : dispatcher.grammar.nodes[index]? = some node) (hname : node.name = "select")
    {registration : Operation R} (henters : registration.EntersSelect (.stored index)) :
    (dispatcher.perform registration).response = .done ∧
      (dispatcher.perform registration).dispatcher =
        { dispatcher with entries := dispatcher.entries.insert "select" index } := by
  have hentered := dispatcher.perform_registerAs "select" hnode
  rcases henters with rfl | rfl
  · rw [dispatcher.perform_register hnode, hname]
    exact hentered
  · exact hentered

/-- In a reachable dispatcher the template is installed into any store that exists and registered
without fail. No store reads otherwise afterwards, and until something is constructed the
dispatcher is ready for statements. -/
theorem Reachable.select_ready {dispatcher : Dispatcher R} (hreach : dispatcher.Reachable)
    {store : StoreRef} (hstore : dispatcher.grammar.stores.contains store = true)
    {callbacks : List (Callback R)} (hcallbacks : callbackCount ≤ callbacks.length) :
    let installed := dispatcher.perform (.installSelect store callbacks)
    let root : NodeRef := .stored (dispatcher.grammar.size + rootOffset)
    installed.response = .node root ∧ ∀ registration : Operation R,
      registration.EntersSelect root →
      let registered := installed.dispatcher.perform registration
      registered.response = .done ∧
      registered.dispatcher.grammar.captured = dispatcher.grammar.captured ∧
      ∃ known : Callbacks R, (∀ slot : Slot, callbacks[slot.rank]? = some (known.at slot)) ∧
        ∀ operations : List (Operation R),
          (∀ operation ∈ operations, operation.constructs = false) →
          Ready (registered.dispatcher.afterAll operations) store known
            dispatcher.grammar.size := by
  intro installed root
  obtain ⟨known, hknown, hslots⟩ := Callbacks.exists_ofList? hcallbacks
  obtain ⟨storeRoot, hresolve⟩ := hreach.grounded store hstore
  obtain ⟨after, trace, hinstall, hends, hstores⟩ := install_eq hresolve hknown
  -- The template captures into the one store only, so building it unifies nothing.
  have hself : after.stores.isUnified store store = true := by
    rw [hstores]
    exact dispatcher.grammar.stores.isUnified_iff.mpr ⟨storeRoot, hresolve, hresolve⟩
  have hinstalled : installed = ⟨.node root, { dispatcher with grammar := after }, trace⟩ := by
    simp only [installed, perform, hinstall]
    rfl
  have hwf : after.WellFormed := by
    have hwf := (hreach.step (.installSelect store callbacks)).wellFormed
    rwa [show dispatcher.perform (.installSelect store callbacks) = installed from rfl,
      hinstalled] at hwf
  have hwired := wired_of_endsWith hwf hself hends
  obtain ⟨node, hnode, hrealises⟩ := exists_node hends (show rootOffset < 12 by decide)
  have hname : node.name = "select" := hrealises.name_eq
  refine ⟨by rw [hinstalled], fun registration henters => ?_⟩
  intro registered
  have hregistered : registered.response = .done ∧ registered.dispatcher =
      { dispatcher with grammar := after,
                        entries := dispatcher.entries.insert "select"
                          (dispatcher.grammar.size + rootOffset) } := by
    simp only [registered, hinstalled]
    exact perform_entersSelect { dispatcher with grammar := after } hnode hname henters
  refine ⟨hregistered.1, ?_, known, hslots, fun operations hkind => ?_⟩
  · funext other
    rw [hregistered.2, Grammar.captured, hstores]
    rfl
  · obtain ⟨hsame, hentries⟩ := registered.dispatcher.afterAll_of_not_constructs hkind
    rw [hregistered.2] at hsame hentries
    refine ⟨?_, hregistered.2 ▸ hwired.of_sameStructure hsame⟩
    rw [hregistered.2, entry, hentries]
    simp

/-- After the template was installed into a store that exists and the node that it returned was
registered, and as long as nothing else is constructed and the store reads empty, a list of tokens
that begins with `select` executes if it is a statement with its clauses in order, followed by
tokens that do not begin with the keyword of a later clause: then the callback of the last slot
runs on exactly the values of the statement. Any other such list runs nothing and is reported by
its last token. -/
theorem Reachable.select_runs_statements {dispatcher : Dispatcher R}
    (hreach : dispatcher.Reachable) {store : StoreRef}
    (hstore : dispatcher.grammar.stores.contains store = true)
    {callbacks : List (Callback R)} (hcallbacks : callbackCount ≤ callbacks.length) :
    let installed := dispatcher.perform (.installSelect store callbacks)
    ∃ root, installed.response = .node root ∧
      let registered := installed.dispatcher.perform (.register root)
      registered.response = .done ∧
      registered.dispatcher.grammar.captured = dispatcher.grammar.captured ∧
      ∀ operations : List (Operation R),
        (∀ operation ∈ operations, operation.constructs = false) →
        let later := registered.dispatcher.afterAll operations
        later.grammar.captured store = [] →
        ∀ tokens : List String, tokens.head? = some "select" →
          (∀ (statement : Statement) (rest : List String), statement.Ordered →
            statement.ClosedBy rest → tokens = statement.tokens ++ rest →
            ∃ callback, callbacks[statement.last.rank]? = some callback ∧
              (later.runTokens tokens).outcome = .executed (callback statement.values)) ∧
          ((∀ (statement : Statement) (rest : List String), statement.Ordered →
            statement.ClosedBy rest → tokens ≠ statement.tokens ++ rest) →
            (later.runTokens tokens).outcome = .unmatched ⟨tokens.getLastD ""⟩ ∧
              (later.runTokens tokens).trace.executions = []) := by
  intro installed
  obtain ⟨hinstalled, hregisters⟩ := hreach.select_ready hstore hcallbacks
  obtain ⟨hregistered, hcaptured, known, hslots, hready⟩ := hregisters _ (.inl rfl)
  refine ⟨_, hinstalled, hregistered, hcaptured, ?_⟩
  intro operations hkind later hempty tokens hselect
  have hready := hready operations hkind
  refine ⟨?_, hready.rejects hselect⟩
  rintro statement rest hordered hclosed rfl
  exact ⟨_, hslots statement.last, hready.executes hempty hordered hclosed⟩

/-- A dispatcher with one store and no nodes. -/
def oneStore : Dispatcher (String × List String) :=
  afterAll { tokenizer := .delimiter " " } [.createStore]

/-- Callbacks that return the name of their slot and the values that they are given. -/
def labelled : List (Callback (String × List String)) :=
  ["table", "where", "group by", "order by", "limit"].map fun label values => (label, values)

/-- Of `select * from users where from limit 5 where x`, the statement ends before the second
`where`. Without a table, nothing runs. -/
theorem select_runs_statements_limit :
    oneStore.Reachable ∧ oneStore.grammar.stores.contains ⟨0⟩ = true ∧
      callbackCount ≤ labelled.length ∧
      ∃ root, (oneStore.perform (.installSelect ⟨0⟩ labelled)).response = .node root ∧
        let later := ((oneStore.perform (.installSelect ⟨0⟩ labelled)).dispatcher.perform
          (.register root)).dispatcher
        later.grammar.captured ⟨0⟩ = [] ∧
        (later.runTokens ["select", "*", "from", "users", "where", "from", "limit", "5", "where",
          "x"]).outcome = .executed ("limit", ["*", "users", "from", "5"]) ∧
        (later.runTokens ["select", "*", "from"]).outcome = .unmatched ⟨"from"⟩ := by
  have hreach : oneStore.Reachable := (Reachable.start _).afterAll _
  have hstore : oneStore.grammar.stores.contains ⟨0⟩ = true := by decide
  have hcallbacks : callbackCount ≤ labelled.length := by decide
  obtain ⟨root, hroot, _, hcaptured, hruns⟩ := hreach.select_runs_statements hstore hcallbacks
  have hempty : ((oneStore.perform (.installSelect ⟨0⟩ labelled)).dispatcher.perform
      (.register root)).dispatcher.grammar.captured ⟨0⟩ = [] := by
    rw [hcaptured]
    decide
  refine ⟨hreach, hstore, hcallbacks, root, hroot, hempty, ?_, ?_⟩
  · obtain ⟨hexecutes, _⟩ := hruns [] (by simp) hempty
      ["select", "*", "from", "users", "where", "from", "limit", "5", "where", "x"] rfl
    obtain ⟨callback, hcallback, houtcome⟩ := hexecutes
      ⟨"*", "users", [(.condition, "from"), (.range, "5")]⟩ ["where", "x"] (by decide)
      (by decide) rfl
    obtain rfl : (fun values => ("limit", values)) = callback := Option.some.inj hcallback
    exact houtcome
  · obtain ⟨_, hrejects⟩ := hruns [] (by simp) hempty ["select", "*", "from"] rfl
    refine (hrejects ?_).1
    intro statement rest _ _ htokens
    have hlength := congrArg List.length htokens
    simp [Statement.tokens] at hlength

end Dispatcher

end CommandGrammar
