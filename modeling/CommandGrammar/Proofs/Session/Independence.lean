import CommandGrammar.Proofs.Dispatch.Frame
import CommandGrammar.Proofs.Store.Drained

/-! # Sessions forget their commands

A session in which tokens are captured only while a command runs is quiet between its steps: no
store holds a token. A command, a clearing or a question then leaves the dispatcher exactly as it
was, so a session that leaves out any of them gives the same answers in all other steps.
-/

namespace CommandGrammar

variable {R A : Type}

/-- The operations after which a dispatcher without captured tokens is what it was before. -/
def Operation.transient : Operation R → Bool
  | .clearFrom _ | .clearAll | .run _ | .runTokens _ => true
  | _ => false

/-- The one operation that captures tokens and does not clear them. -/
def Operation.capturesDirectly : Operation R → Bool
  | .advance .. => true
  | _ => false

theorem Operation.recordsOrClears_eq (operation : Operation R) :
    operation.recordsOrClears = (operation.transient || operation.capturesDirectly) := by
  cases operation <;> rfl

/-- A step of a session: an operation, or a question that may look at all of the dispatcher and
leaves it alone. -/
inductive Step (R A : Type) where
  | perform (operation : Operation R)
  | ask (question : Dispatcher R → A)

namespace Step

/-- Operations that are transient, and all questions. -/
def transient : Step R A → Bool
  | .perform operation => operation.transient
  | .ask _ => true

def capturesDirectly : Step R A → Bool
  | .perform operation => operation.capturesDirectly
  | .ask _ => false

end Step

/-- What a step results in: the answer, the dispatcher afterwards and the trace. -/
structure Answered (R A : Type) where
  answer : Response R ⊕ A
  dispatcher : Dispatcher R
  trace : Trace

/-- The elements that are marked as kept, in order. -/
def kept {α : Type} (marks : List Bool) (elements : List α) : List α :=
  ((marks.zip elements).filter (·.1)).map (·.2)

@[simp] theorem kept_nil {α : Type} (marks : List Bool) : kept marks ([] : List α) = [] := by
  simp [kept]

@[simp] theorem kept_cons_true {α : Type} (marks : List Bool) (element : α) (rest : List α) :
    kept (true :: marks) (element :: rest) = element :: kept marks rest := rfl

@[simp] theorem kept_cons_false {α : Type} (marks : List Bool) (element : α) (rest : List α) :
    kept (false :: marks) (element :: rest) = kept marks rest := rfl

/-- Clearing captured tokens where there are none leaves none. -/
theorem Grammar.drained_clearCaptures {grammar : Grammar R} (hdrained : grammar.stores.Drained)
    (root : NodeRef) : (grammar.clearCaptures root).stores.Drained := by
  refine (StoreTable.drained_iff _).mpr fun store => ?_
  have hread := grammar.captured_clearCaptures_eq root store
  rw [captured, captured, (StoreTable.drained_iff _).mp hdrained store, ite_self] at hread
  exact hread

namespace Dispatcher

/-- Takes one step. -/
def answer (dispatcher : Dispatcher R) : Step R A → Answered R A
  | .perform operation =>
    let performed := dispatcher.perform operation
    ⟨.inl performed.response, performed.dispatcher, performed.trace⟩
  | .ask question => ⟨.inr (question dispatcher), dispatcher, []⟩

/-- Takes the steps of a session in order. -/
def answerAll (dispatcher : Dispatcher R) : List (Step R A) → List (Answered R A)
  | [] => []
  | step :: rest =>
    let answered := dispatcher.answer step
    answered :: answered.dispatcher.answerAll rest

/-- The grammar is well-formed and no store holds a token. -/
structure Quiet (dispatcher : Dispatcher R) : Prop where
  wellFormed : dispatcher.grammar.WellFormed
  drained : dispatcher.grammar.stores.Drained

namespace Quiet

variable {dispatcher : Dispatcher R}

theorem start (tokenizer : Tokenizer) : Quiet ({ tokenizer } : Dispatcher R) :=
  ⟨.empty, .empty⟩

theorem captured_eq_nil (hquiet : dispatcher.Quiet) (store : StoreRef) :
    dispatcher.grammar.captured store = [] :=
  (StoreTable.drained_iff _).mp hquiet.drained store

/-- Captured tokens are all that may change, and there are none before or afterwards. -/
theorem eq_of_sameStructure {other : Dispatcher R} (hquiet : dispatcher.Quiet)
    (hsame : other.SameStructure dispatcher) (hdrained : other.grammar.stores.Drained) :
    other = dispatcher := by
  have hstores := hdrained.eq_of_sameShape hquiet.drained hsame.grammar.stores
  obtain ⟨⟨nodes, stores⟩, entries, tokenizer⟩ := other
  obtain ⟨⟨_, _⟩, _, _⟩ := dispatcher
  obtain ⟨⟨rfl, _⟩, rfl, rfl⟩ := hsame
  obtain rfl := hstores
  rfl

/-- A command clears what it has captured, so that nothing is left behind it. -/
theorem drained_runTokens (hquiet : dispatcher.Quiet) (tokens : List String) :
    (dispatcher.runTokens tokens).dispatcher.grammar.stores.Drained :=
  (StoreTable.drained_iff _).mpr
    ((runTokens_clearedBelow hquiet.wellFormed tokens).captured_eq_nil hquiet.captured_eq_nil)

theorem drained_perform {operation : Operation R} (hquiet : dispatcher.Quiet)
    (htransient : operation.transient = true) :
    (dispatcher.perform operation).dispatcher.grammar.stores.Drained := by
  cases operation with
  | clearFrom root => exact Grammar.drained_clearCaptures hquiet.drained root
  | clearAll =>
      exact dispatcher.clearCaptures_invariant (P := fun grammar => grammar.stores.Drained)
        hquiet.drained fun _ root hdrained => Grammar.drained_clearCaptures hdrained root
  | run command => exact hquiet.drained_runTokens _
  | runTokens tokens => exact hquiet.drained_runTokens tokens
  | _ => simp [Operation.transient] at htransient

/-- A transient operation returns the dispatcher that it was given. -/
theorem perform_eq {operation : Operation R} (hquiet : dispatcher.Quiet)
    (htransient : operation.transient = true) :
    (dispatcher.perform operation).dispatcher = dispatcher := by
  have hkind : operation.recordsOrClears = true := by
    simp [operation.recordsOrClears_eq, htransient]
  exact hquiet.eq_of_sameStructure (dispatcher.perform_sameStructure hkind)
    (hquiet.drained_perform htransient)

/-- Only a direct capture ends the quiet. -/
theorem perform {operation : Operation R} (hquiet : dispatcher.Quiet)
    (hdirect : operation.capturesDirectly = false) :
    (dispatcher.perform operation).dispatcher.Quiet := by
  cases htransient : operation.transient with
  | true =>
      rw [hquiet.perform_eq htransient]
      exact hquiet
  | false =>
      have hkind : operation.recordsOrClears = false := by
        simp [operation.recordsOrClears_eq, htransient, hdirect]
      exact ⟨dispatcher.perform_of_grows (fun _ _ hwf hgrows => hwf.of_grows hgrows) hkind
          hquiet.wellFormed,
        dispatcher.perform_of_grows (P := fun grammar => grammar.stores.Drained)
          (fun _ _ hdrained hgrows => hgrows.drained hdrained) hkind hquiet.drained⟩

theorem answer_eq {step : Step R A} (hquiet : dispatcher.Quiet)
    (htransient : step.transient = true) : (dispatcher.answer step).dispatcher = dispatcher := by
  cases step with
  | perform operation => exact hquiet.perform_eq htransient
  | ask question => rfl

theorem answer {step : Step R A} (hquiet : dispatcher.Quiet)
    (hdirect : step.capturesDirectly = false) : (dispatcher.answer step).dispatcher.Quiet := by
  cases step with
  | perform operation => exact hquiet.perform hdirect
  | ask question => exact hquiet

theorem answerAll {steps : List (Step R A)} (hquiet : dispatcher.Quiet)
    (hdirect : ∀ step ∈ steps, step.capturesDirectly = false) :
    ∀ answered ∈ dispatcher.answerAll steps, answered.dispatcher.Quiet := by
  induction steps generalizing dispatcher with
  | nil => simp [Dispatcher.answerAll]
  | cons step rest ih =>
      obtain ⟨hstep, hrest⟩ := List.forall_mem_cons.mp hdirect
      have hnext := hquiet.answer hstep
      exact List.forall_mem_cons.mpr ⟨hnext, ih hnext hrest⟩

/-- From a quiet dispatcher on, leaving out transient steps leaves out their answers and changes
no other. -/
theorem answerAll_kept {steps : List (Step R A)} (hquiet : dispatcher.Quiet)
    (hdirect : ∀ step ∈ steps, step.capturesDirectly = false) (marks : List Bool)
    (hdropped : ∀ entry ∈ marks.zip steps, entry.1 = false → entry.2.transient = true) :
    dispatcher.answerAll (kept marks steps) = kept marks (dispatcher.answerAll steps) := by
  induction steps generalizing dispatcher marks with
  | nil => simp [Dispatcher.answerAll]
  | cons step rest ih =>
      obtain ⟨hstep, hrest⟩ := List.forall_mem_cons.mp hdirect
      cases marks with
      | nil => rfl
      | cons mark marks =>
          obtain ⟨hmark, hmarks⟩ := List.forall_mem_cons.mp hdropped
          cases mark with
          | true =>
              rw [kept_cons_true, Dispatcher.answerAll, Dispatcher.answerAll, kept_cons_true,
                ih (hquiet.answer hstep) hrest marks hmarks]
          | false =>
              -- The step that is left out would have returned the dispatcher it was given.
              rw [kept_cons_false, Dispatcher.answerAll, kept_cons_false,
                hquiet.answer_eq (hmark rfl), ih hquiet hrest marks hmarks]

end Quiet

/-- In a session that starts empty and never captures directly, every store is empty behind every
step, and leaving out commands, clearings and questions, any of them and as many as one likes,
changes neither the answer nor the trace of any other step, nor the dispatcher behind it. -/
theorem answerAll_independent (tokenizer : Tokenizer) (steps : List (Step R A))
    (hdirect : ∀ step ∈ steps, step.capturesDirectly = false) :
    (∀ answered ∈ answerAll { tokenizer } steps,
      ∀ store, answered.dispatcher.grammar.captured store = []) ∧
    ∀ marks : List Bool,
      (∀ entry ∈ marks.zip steps, entry.1 = false → entry.2.transient = true) →
      answerAll { tokenizer } (kept marks steps) = kept marks (answerAll { tokenizer } steps) := by
  have hquiet := Quiet.start (R := R) tokenizer
  constructor
  · intro answered hanswered store
    exact (hquiet.answerAll hdirect answered hanswered).captured_eq_nil store
  · intro marks hdropped
    exact hquiet.answerAll_kept hdirect marks hdropped

/-- Two commands and a question, with construction and registration between them. -/
def useTwiceSession : List (Step (List String) (List String)) :=
  nameShowerSession.map .perform ++
    [.perform (.run "use alice show"),
      .ask fun dispatcher => dispatcher.grammar.captured ⟨0⟩,
      .perform (.build { NodeSpec.capturing "again" with children := [.stored 1] }),
      .perform (.register (.stored 3)),
      .perform (.run "again bob show")]

/-- The second command answers the same whether or not `alice` was shown and asked for before. -/
theorem answerAll_independent_use_twice :
    let marks := [true, true, true, true, true, false, false, true, true, true]
    (∀ step ∈ useTwiceSession, step.capturesDirectly = false) ∧
      (∀ entry ∈ marks.zip useTwiceSession, entry.1 = false → entry.2.transient = true) ∧
      answerAll { tokenizer := .delimiter " " } (kept marks useTwiceSession) =
        kept marks (answerAll { tokenizer := .delimiter " " } useTwiceSession) :=
  have hdirect : ∀ step ∈ useTwiceSession, step.capturesDirectly = false := by decide
  have hdropped : ∀ entry ∈
      [true, true, true, true, true, false, false, true, true, true].zip useTwiceSession,
      entry.1 = false → entry.2.transient = true := by decide
  ⟨hdirect, hdropped, (answerAll_independent _ _ hdirect).2 _ hdropped⟩

end Dispatcher

end CommandGrammar
