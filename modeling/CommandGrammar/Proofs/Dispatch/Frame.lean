import CommandGrammar.Proofs.Session.Invariant

/-! # What a command leaves behind

The walk of a command records only in stores that the cleanup behind it empties, since whatever
the walk can reach from the entry is reached by child edges. So a command leaves these stores
empty, whatever it met on its way, and leaves everything else as it was.
-/

namespace CommandGrammar

variable {R : Type}

namespace Grammar

variable {grammar other : Grammar R} {node : NodeRef} {store : StoreRef}

theorem SameStructure.capturesBelow_iff (hsame : grammar.SameStructure other) (root : NodeRef)
    (store : StoreRef) : grammar.CapturesBelow root store ↔ other.CapturesBelow root store := by
  simp only [CapturesBelow, Reaches, hsame.edge_eq, hsame.storeAt_eq, hsame.sameStore_eq]

/-- A node that records a token captures into the store itself. -/
theorem capturesBelow_of_records {token : String}
    (hrecords : grammar.records node token store = true) : grammar.CapturesBelow node store := by
  cases node with
  | notFound => simp [records, node?] at hrecords
  | stored index =>
      simp only [records, node?, Option.any_eq_true, Bool.and_eq_true] at hrecords
      obtain ⟨found, hnode, _, own, hown, hsame⟩ := hrecords
      exact ⟨index, index, own, rfl, .refl, by simp [storeAt, hnode, hown], hsame⟩

/-- What is captured below the place where a token leads is captured below where it came from. -/
theorem CapturesBelow.of_lookup (hwf : grammar.WellFormed) {token : String}
    (hbelow : grammar.CapturesBelow (grammar.lookup node token) store) :
    grammar.CapturesBelow node store := by
  obtain ⟨start, index, own, hlookup, hreaches, hown, hsame⟩ := hbelow
  cases node with
  | notFound => simp at hlookup
  | stored source =>
      have hedge := hwf.edge_of_lookup hlookup
      exact ⟨source, index, own, rfl, .head hedge hreaches, hown, hsame⟩

/-- Nothing is recorded in a store that no node below the start captures into. -/
theorem recorded_eq_nil (hwf : grammar.WellFormed) (hbelow : ¬ grammar.CapturesBelow node store)
    (tokens : List String) : grammar.recorded node store tokens = [] := by
  induction tokens generalizing node with
  | nil => rfl
  | cons token rest ih =>
      have hsilent : ¬ grammar.records node token store = true :=
        mt capturesBelow_of_records hbelow
      -- What lies below the next place lies below this one, so the store stays out of reach.
      rw [recorded, if_neg hsilent, ih (mt (CapturesBelow.of_lookup hwf) hbelow), List.append_nil]

theorem captured_settled_of_not_below (hwf : grammar.WellFormed)
    (hbelow : ¬ grammar.CapturesBelow node store) (tokens : List String) :
    (grammar.settled node tokens).grammar.captured store = grammar.captured store := by
  cases node with
  | notFound =>
      rw [settled_of_progress_eq_zero (grammar.progress_notFound tokens)]
  | stored index =>
      have hbound := grammar.progress_le_length (.stored index) tokens
      have hresolves := (foldl_take_ne_notFound_iff (by simp) hbound).mpr (Nat.le_refl _)
      rw [settled, captured_advanceAll hresolves, recorded_eq_nil hwf hbelow, List.append_nil]

end Grammar

namespace Dispatcher

/-- The node at which a command enters the grammar. -/
def root (dispatcher : Dispatcher R) : List String → NodeRef
  | [] => .notFound
  | first :: _ => dispatcher.entry first

/-- Two dispatchers that differ at most in the stores captured into below a node: these are empty
in the second, and every other store reads the same in both. -/
structure ClearedBelow (before after : Dispatcher R) (root : NodeRef) : Prop where
  nodes_eq : after.grammar.nodes = before.grammar.nodes
  entries_eq : after.entries = before.entries
  tokenizer_eq : after.tokenizer = before.tokenizer
  resolve_eq : ∀ store, after.grammar.stores.resolve store = before.grammar.stores.resolve store
  cleared : ∀ store, before.grammar.CapturesBelow root store → after.grammar.captured store = []
  kept : ∀ store, ¬ before.grammar.CapturesBelow root store →
    after.grammar.captured store = before.grammar.captured store

variable {dispatcher : Dispatcher R}

theorem captured_runTokens_of_below {tokens : List String} {store : StoreRef}
    (hbelow : dispatcher.grammar.CapturesBelow (dispatcher.root tokens) store) :
    (dispatcher.runTokens tokens).dispatcher.grammar.captured store = [] := by
  cases tokens with
  | nil =>
      obtain ⟨start, _, _, hroot, _⟩ := hbelow
      simp [root] at hroot
  | cons first rest =>
      rw [dispatcher_runTokens_cons]
      exact Grammar.captured_clearCaptures_of_below
        (((dispatcher.settled_sameStructure first rest).capturesBelow_iff _ _).mpr hbelow)

theorem captured_runTokens_of_not_below (hwf : dispatcher.grammar.WellFormed)
    {tokens : List String} {store : StoreRef}
    (hbelow : ¬ dispatcher.grammar.CapturesBelow (dispatcher.root tokens) store) :
    (dispatcher.runTokens tokens).dispatcher.grammar.captured store =
      dispatcher.grammar.captured store := by
  cases tokens with
  | nil => rfl
  | cons first rest =>
      have hsettled := (dispatcher.settled_sameStructure first rest).capturesBelow_iff
        (dispatcher.entry first) store
      rw [dispatcher_runTokens_cons,
        Grammar.captured_clearCaptures_of_not_below (mt hsettled.mp hbelow)]
      exact Grammar.captured_settled_of_not_below hwf hbelow rest

theorem runTokens_clearedBelow (hwf : dispatcher.grammar.WellFormed) (tokens : List String) :
    dispatcher.ClearedBelow (dispatcher.runTokens tokens).dispatcher (dispatcher.root tokens) := by
  have hsame := dispatcher.runTokens_sameStructure tokens
  exact {
    nodes_eq := hsame.grammar.nodes_eq
    entries_eq := hsame.entries_eq
    tokenizer_eq := hsame.tokenizer_eq
    resolve_eq := hsame.grammar.stores.resolve_eq
    cleared := fun _ => captured_runTokens_of_below
    kept := fun _ => captured_runTokens_of_not_below hwf }

/-- Where every store was empty, clearing some of them leaves every store empty. -/
theorem ClearedBelow.captured_eq_nil {before after : Dispatcher R} {root : NodeRef}
    (hcleared : before.ClearedBelow after root)
    (hempty : ∀ store, before.grammar.captured store = []) (store : StoreRef) :
    after.grammar.captured store = [] := by
  by_cases hbelow : before.grammar.CapturesBelow root store
  · exact hcleared.cleared store hbelow
  · rw [hcleared.kept store hbelow, hempty]

/-- A command, executed or not, empties exactly the logical stores that nodes below its entry
capture into. Nodes, entries, tokenizer and the redirections of stores stay as they were, and so
does what every other store holds. If every store was empty, every store is empty again. -/
theorem runTokens_frame (hreach : dispatcher.Reachable) (tokens : List String) :
    dispatcher.ClearedBelow (dispatcher.runTokens tokens).dispatcher (dispatcher.root tokens) ∧
      ((∀ store, dispatcher.grammar.captured store = []) →
        ∀ store, (dispatcher.runTokens tokens).dispatcher.grammar.captured store = []) :=
  have hcleared := runTokens_clearedBelow hreach.wellFormed tokens
  ⟨hcleared, hcleared.captured_eq_nil⟩

/-- Two captures made by hand: `bob` in the stores of `use`, and `milk` in those of a node that is
no entry. -/
def strayCaptures : Dispatcher (List String) :=
  nameShower.afterAll
    [.build (NodeSpec.capturing wildcard),
      .build { NodeSpec.capturing "note" with children := [.stored 3] },
      .advance (.stored 2) "bob",
      .advance (.stored 4) "milk"]

/-- The command `use alice` forgets `bob` together with `alice`, and leaves `milk` alone. -/
theorem runTokens_frame_use_alice :
    strayCaptures.Reachable ∧ strayCaptures.grammar.captured ⟨1⟩ = ["bob"] ∧
      strayCaptures.grammar.captured ⟨2⟩ = ["milk"] ∧
      (strayCaptures.runTokens ["use", "alice"]).dispatcher.grammar.captured ⟨1⟩ = [] ∧
      (strayCaptures.runTokens ["use", "alice"]).dispatcher.grammar.captured ⟨2⟩ = ["milk"] := by
  have hreach : strayCaptures.Reachable := nameShower_reachable.afterAll _
  obtain ⟨hcleared, _⟩ := runTokens_frame hreach ["use", "alice"]
  have hmilk : strayCaptures.grammar.captured ⟨2⟩ = ["milk"] := by decide
  have hbelow : strayCaptures.grammar.CapturesBelow (.stored 2) ⟨1⟩ :=
    ⟨2, 2, ⟨0⟩, rfl, .refl, rfl, rfl⟩
  have hreachable : strayCaptures.grammar.reachable [.stored 2] = [2, 1, 0] :=
    Grammar.reachable_eq_of_visitWithin 6 (by decide)
  have hnot : ¬ strayCaptures.grammar.CapturesBelow (.stored 2) ⟨2⟩ := by
    rw [← Grammar.clears_iff_capturesBelow, hreachable]
    decide
  exact ⟨hreach, by decide, hmilk, hcleared.cleared _ hbelow, (hcleared.kept _ hnot).trans hmilk⟩

end Dispatcher

end CommandGrammar
