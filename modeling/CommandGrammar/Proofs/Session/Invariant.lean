import CommandGrammar.Proofs.Dispatch.Walk
import CommandGrammar.Proofs.Grammar.Clearing
import CommandGrammar.Proofs.Grammar.WellFormed
import CommandGrammar.Session

/-! # Invariants of sessions

An operation either builds, and then the grammar grows in steps of construction, or it records
and clears, and then nothing but captured tokens changes. Whatever holds of the empty grammar and
survives both holds of every dispatcher that a session leads to.
-/

namespace CommandGrammar

variable {R : Type}

/-- The operations that record or clear captured tokens and do nothing else. -/
def Operation.recordsOrClears : Operation R → Bool
  | .advance .. | .clearFrom _ | .clearAll | .run _ | .runTokens _ => true
  | _ => false

namespace Dispatcher

/-- Two dispatchers that differ at most in captured tokens. -/
structure SameStructure (left right : Dispatcher R) : Prop where
  grammar : left.grammar.SameStructure right.grammar
  entries_eq : left.entries = right.entries
  tokenizer_eq : left.tokenizer = right.tokenizer

theorem SameStructure.refl (dispatcher : Dispatcher R) : dispatcher.SameStructure dispatcher :=
  ⟨.refl _, rfl, rfl⟩

variable (dispatcher : Dispatcher R)

theorem runTokens_sameStructure (tokens : List String) :
    (dispatcher.runTokens tokens).dispatcher.SameStructure dispatcher := by
  cases tokens with
  | nil => exact .refl dispatcher
  | cons first rest =>
      rw [dispatcher_runTokens_cons]
      have hcleared := (dispatcher.settled first rest).grammar.clearCaptures_sameStructure
        (dispatcher.entry first)
      exact ⟨hcleared.trans (dispatcher.settled_sameStructure first rest), rfl, rfl⟩

/-- Clearing all entries is clearing from one handle after the other. -/
theorem clearCaptures_invariant {P : Grammar R → Prop} (hbefore : P dispatcher.grammar)
    (hclear : ∀ grammar root, P grammar → P (grammar.clearCaptures root)) :
    P dispatcher.clearCaptures.grammar :=
  List.foldlRecOn _ _ hbefore fun grammar hgrammar index _ =>
    hclear grammar (.stored index) hgrammar

theorem clearCaptures_sameStructure : dispatcher.clearCaptures.SameStructure dispatcher := by
  refine ⟨?_, rfl, rfl⟩
  exact dispatcher.clearCaptures_invariant (.refl dispatcher.grammar) fun grammar root hsame =>
    (grammar.clearCaptures_sameStructure root).trans hsame

theorem perform_sameStructure {operation : Operation R}
    (hcaptures : operation.recordsOrClears = true) :
    (dispatcher.perform operation).dispatcher.SameStructure dispatcher := by
  cases operation with
  | advance node token =>
      exact ⟨dispatcher.grammar.advance_sameStructure node token, rfl, rfl⟩
  | clearFrom root => exact ⟨dispatcher.grammar.clearCaptures_sameStructure root, rfl, rfl⟩
  | clearAll => exact dispatcher.clearCaptures_sameStructure
  | run command => exact dispatcher.runTokens_sameStructure _
  | runTokens tokens => exact dispatcher.runTokens_sameStructure tokens
  | _ => simp [Operation.recordsOrClears] at hcaptures

/-- The edges that a construction draws, none if it is refused. -/
def edgesOf {α : Type} (edges : α → List (Nat × Nat)) :
    Except Error (Change R α) → List (Nat × Nat)
  | .ok change => edges change.value
  | .error _ => []

/-- The edges that an operation draws, in order and as places. -/
def edgesDrawn (dispatcher : Dispatcher R) : Operation R → List (Nat × Nat)
  | .build spec =>
    edgesOf (fun built => Grammar.edgesFrom built spec.children) (dispatcher.grammar.build spec)
  | .attach parent child =>
    edgesOf (fun _ => Grammar.edgesFrom parent [child]) (dispatcher.grammar.attach parent child)
  | .attachMany parent children =>
    edgesOf (fun _ => Grammar.edgesFrom parent (children.map (·.2)))
      (dispatcher.grammar.attachMany parent children)
  | .installSelect store callbacks =>
    Select.edgesInstalled dispatcher.grammar store callbacks
  | _ => []

theorem performChange_draws {α : Type} (respond : α → Response R)
    (edges : α → List (Nat × Nat)) (result : Except Error (Change R α))
    (hdraws : ∀ change, result = .ok change →
      dispatcher.grammar.Draws (edges change.value) change.grammar) :
    dispatcher.grammar.Draws (edgesOf edges result)
      (dispatcher.performChange respond result).dispatcher.grammar := by
  cases result with
  | error error => exact .refl dispatcher.grammar
  | ok change => exact hdraws change rfl

theorem grammar_registerAs {dispatcher after : Dispatcher R} {name : String} {root : NodeRef}
    {trace : Trace} (hregister : dispatcher.registerAs name root = .ok (after, trace)) :
    after.grammar = dispatcher.grammar := by
  unfold registerAs at hregister
  split at hregister
  · simp at hregister
  · simp only [Except.ok.injEq, Prod.mk.injEq] at hregister
    rw [← hregister.1]

theorem grammar_performEntry_registerAs (name : String) (root : NodeRef) :
    (dispatcher.performEntry (dispatcher.registerAs name root)).dispatcher.grammar =
      dispatcher.grammar := by
  cases hregister : dispatcher.registerAs name root with
  | error error => rfl
  | ok result => exact grammar_registerAs hregister

theorem grammar_performEntry_register (root : NodeRef) :
    (dispatcher.performEntry (dispatcher.register root)).dispatcher.grammar =
      dispatcher.grammar := by
  unfold register
  split
  · rfl
  · exact dispatcher.grammar_performEntry_registerAs _ root

theorem grammar_performTokenizer (made : Except PatternFault Tokenizer) :
    (dispatcher.performTokenizer made).dispatcher.grammar = dispatcher.grammar := by
  cases made <;> rfl

theorem entries_performTokenizer (made : Except PatternFault Tokenizer) :
    (dispatcher.performTokenizer made).dispatcher.entries = dispatcher.entries := by
  cases made <;> rfl

/-- An operation that neither records nor clears takes steps of construction. -/
theorem perform_draws {operation : Operation R}
    (hcaptures : operation.recordsOrClears = false) :
    dispatcher.grammar.Draws (dispatcher.edgesDrawn operation)
      (dispatcher.perform operation).dispatcher.grammar := by
  cases operation with
  | createStore => exact .store dispatcher.grammar
  | build spec =>
      rw [perform, edgesDrawn]
      exact dispatcher.performChange_draws _ _ _ fun _ hbuild => Grammar.build_draws hbuild
  | attach parent child =>
      rw [perform, edgesDrawn]
      exact dispatcher.performChange_draws _ _ _ fun _ hattach => Grammar.attach_draws hattach
  | attachMany parent children =>
      rw [perform, edgesDrawn]
      exact dispatcher.performChange_draws _ _ _ fun _ hattach => Grammar.attachMany_draws hattach
  | installSelect store callbacks => exact Select.install_draws dispatcher.grammar store callbacks
  | register root =>
      rw [perform, grammar_performEntry_register]
      exact .refl dispatcher.grammar
  | registerAs name root =>
      rw [perform, grammar_performEntry_registerAs]
      exact .refl dispatcher.grammar
  | setTokenizer strategy source =>
      rw [perform, grammar_performTokenizer]
      exact .refl dispatcher.grammar
  | _ => simp [Operation.recordsOrClears] at hcaptures

theorem perform_grows {operation : Operation R}
    (hcaptures : operation.recordsOrClears = false) :
    Relation.ReflTransGen Grammar.Grows dispatcher.grammar
      (dispatcher.perform operation).dispatcher.grammar :=
  (dispatcher.perform_draws hcaptures).grows

/-- A property of grammars that survives every step of construction survives an operation that
builds. -/
theorem perform_of_grows {P : Grammar R → Prop}
    (hgrows : ∀ grammar other, P grammar → Grammar.Grows grammar other → P other)
    {operation : Operation R} (hkind : operation.recordsOrClears = false)
    (hbefore : P dispatcher.grammar) : P (dispatcher.perform operation).dispatcher.grammar := by
  have hsteps := dispatcher.perform_grows hkind
  generalize (dispatcher.perform operation).dispatcher.grammar = after at hsteps ⊢
  induction hsteps with
  | refl => exact hbefore
  | tail _ hstep ih => exact hgrows _ _ ih hstep

/-- A property of grammars that survives construction, recording and clearing holds of the
grammar of every reachable dispatcher. -/
theorem Reachable.invariant {P : Grammar R → Prop} (hempty : P Grammar.empty)
    (hgrows : ∀ grammar other, P grammar → Grammar.Grows grammar other → P other)
    (hcaptures : ∀ grammar other, P grammar → other.SameStructure grammar → P other)
    {dispatcher : Dispatcher R} (hreach : dispatcher.Reachable) : P dispatcher.grammar := by
  induction hreach with
  | start tokenizer => exact hempty
  | @step before operation _ ih =>
      cases hkind : operation.recordsOrClears with
      | true => exact hcaptures _ _ ih (before.perform_sameStructure hkind).grammar
      | false => exact before.perform_of_grows hgrows hkind ih

/-- The dispatcher that a session leads to. -/
def afterAll (dispatcher : Dispatcher R) (operations : List (Operation R)) : Dispatcher R :=
  operations.foldl (fun current operation => (current.perform operation).dispatcher) dispatcher

theorem Reachable.afterAll {dispatcher : Dispatcher R} (hreach : dispatcher.Reachable)
    (operations : List (Operation R)) : (dispatcher.afterAll operations).Reachable := by
  induction operations generalizing dispatcher with
  | nil => exact hreach
  | cons operation rest ih => exact ih (hreach.step operation)

/-- A session that builds a grammar for commands such as `use alice show`. The node `use` and its
wildcard child capture into stores that are unified, and `show` answers what the first of them
holds. -/
def nameShowerSession : List (Operation (List String)) :=
  [.createStore,
    .build (.executable "show" fun captures => captures.values ⟨0⟩),
    .build { NodeSpec.capturing wildcard with children := [.stored 0] },
    .build { NodeSpec.capturing "use" with target := .into ⟨0⟩, children := [.stored 1] },
    .register (.stored 2)]

/-- The dispatcher that the session builds. -/
def nameShower : Dispatcher (List String) :=
  Dispatcher.afterAll { tokenizer := .delimiter " " } nameShowerSession

theorem nameShower_reachable : nameShower.Reachable := (Reachable.start _).afterAll _

theorem Reachable.wellFormed {dispatcher : Dispatcher R} (hreach : dispatcher.Reachable) :
    dispatcher.grammar.WellFormed :=
  hreach.invariant .empty (fun _ _ hwf hgrows => hwf.of_grows hgrows)
    (fun _ _ hwf hsame => hwf.of_sameStructure hsame)

end Dispatcher

end CommandGrammar
