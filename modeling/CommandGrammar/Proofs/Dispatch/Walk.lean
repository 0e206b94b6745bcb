import CommandGrammar.Dispatcher
import CommandGrammar.Proofs.Grammar.Advance

/-! # Where the walk of a command stops

The walk decides at every executable node whether the next token leads on. All its decisions
together come to this: it steps with the tokens until one leads nowhere, and runs the node that it
has reached by then, if that node has an action. It never runs a node that it has passed.
-/

namespace CommandGrammar

/-- Whether the event announces that an action runs. -/
def Event.isExecution : Event → Bool
  | .executing .. => true
  | _ => false

/-- Whether the event can be reported while a command is still on its way. -/
def Event.isPassing : Event → Bool
  | .droppedCapture _ | .capturedToken .. | .deferredExecution .. => true
  | _ => false

/-- The actions that run in the course of an operation, as its trace announces them. -/
def Trace.executions (trace : Trace) : Trace := trace.filter Event.isExecution

@[simp] theorem Trace.executions_append (first second : Trace) :
    Trace.executions (first ++ second) = first.executions ++ second.executions :=
  List.filter_append first second

namespace Grammar

variable {R : Type} (grammar : Grammar R)

/-- How many of the tokens lead on from a node before one leads nowhere. -/
def progress (grammar : Grammar R) (node : NodeRef) : List String → Nat
  | [] => 0
  | token :: rest =>
    if grammar.lookup node token = .notFound then 0
    else grammar.progress (grammar.lookup node token) rest + 1

theorem SameStructure.progress_eq {left right : Grammar R} (hsame : left.SameStructure right)
    (node : NodeRef) (tokens : List String) :
    left.progress node tokens = right.progress node tokens := by
  induction tokens generalizing node with
  | nil => rfl
  | cons token rest ih => simp only [progress, hsame.lookup_eq, ih]

theorem progress_cons_of_nowhere {grammar : Grammar R} {node : NodeRef} {token : String}
    (hnowhere : grammar.lookup node token = .notFound) (rest : List String) :
    grammar.progress node (token :: rest) = 0 := by
  rw [progress, if_pos hnowhere]

theorem progress_cons_of_leads {grammar : Grammar R} {node : NodeRef} {token : String}
    (hleads : grammar.lookup node token ≠ .notFound) (rest : List String) :
    grammar.progress node (token :: rest) =
      grammar.progress (grammar.lookup node token) rest + 1 := by
  rw [progress, if_neg hleads]

theorem progress_notFound (tokens : List String) : grammar.progress .notFound tokens = 0 := by
  cases tokens with
  | nil => rfl
  | cons token rest => exact progress_cons_of_nowhere rfl rest

theorem progress_le_length (node : NodeRef) (tokens : List String) :
    grammar.progress node tokens ≤ tokens.length := by
  induction tokens generalizing node with
  | nil => exact Nat.le_refl 0
  | cons token rest ih =>
      by_cases hleads : grammar.lookup node token = .notFound
      · rw [progress_cons_of_nowhere hleads]
        exact Nat.zero_le _
      · rw [progress_cons_of_leads hleads, List.length_cons]
        exact Nat.succ_le_succ (ih _)

/-- From a node that is found, a number of tokens leads somewhere exactly if it is at most the
progress. -/
theorem foldl_take_ne_notFound_iff {grammar : Grammar R} {node : NodeRef}
    (hfound : node ≠ .notFound) {tokens : List String} {count : Nat}
    (hcount : count ≤ tokens.length) :
    (tokens.take count).foldl grammar.lookup node ≠ .notFound ↔
      count ≤ grammar.progress node tokens := by
  induction tokens generalizing node count with
  | nil => simpa [progress, Nat.le_zero.mp hcount] using hfound
  | cons token rest ih =>
      cases count with
      | zero => simpa using hfound
      | succ count =>
          rw [List.take_succ_cons, List.foldl_cons]
          by_cases hleads : grammar.lookup node token = .notFound
          · rw [hleads, foldl_lookup_notFound, progress_cons_of_nowhere hleads]
            simp
          · rw [progress_cons_of_leads hleads, ih hleads (Nat.le_of_succ_le_succ hcount)]
            omega

/-- The position and the grammar with which the walk over the tokens stops. -/
def settled (node : NodeRef) (tokens : List String) : Change R NodeRef :=
  grammar.advanceAll node (tokens.take (grammar.progress node tokens))

theorem settled_sameStructure (node : NodeRef) (tokens : List String) :
    (grammar.settled node tokens).grammar.SameStructure grammar :=
  grammar.advanceAll_sameStructure node _

theorem value_settled (node : NodeRef) (tokens : List String) :
    (grammar.settled node tokens).value =
      (tokens.take (grammar.progress node tokens)).foldl grammar.lookup node :=
  grammar.value_advanceAll node _

theorem settled_of_progress_eq_zero {grammar : Grammar R} {node : NodeRef} {tokens : List String}
    (hprogress : grammar.progress node tokens = 0) :
    grammar.settled node tokens = ⟨node, grammar, []⟩ := by
  rw [settled, hprogress]
  rfl

/-- Settling after a token that leads on is settling from where it leads. -/
theorem settled_cons {grammar : Grammar R} {node : NodeRef} {token : String}
    (hleads : grammar.lookup node token ≠ .notFound) (rest : List String) :
    let step := grammar.advance node token
    let final := step.grammar.settled step.value rest
    grammar.settled node (token :: rest) =
      ⟨final.value, final.grammar, step.trace ++ final.trace⟩ := by
  have hsame := grammar.advance_sameStructure node token
  simp only [settled, progress_cons_of_leads hleads, List.take_succ_cons, advanceAll,
    hsame.progress_eq, value_advance]

theorem walk_notFound (position : Nat) (token : String) (rest : List String) :
    grammar.walk .notFound position token rest =
      ⟨none, grammar, [.unresolvedToken position token]⟩ := by
  cases rest <;> rfl

/-- At the last token the walk runs the node that it has reached, if this has an action. -/
theorem walk_stored_nil (index position : Nat) (token : String) :
    grammar.walk (.stored index) position token [] =
      ⟨grammar.execute (.stored index), grammar,
        if grammar.isExecutable (.stored index) then [.executing (.stored index) position token]
        else []⟩ := by
  by_cases hexecutable : grammar.isExecutable (.stored index) = true
  · simp [walk, hexecutable]
  · have hidle := execute_of_not_isExecutable (eq_false_of_ne_true hexecutable)
    simp [walk, hexecutable, hidle]

/-- Where the next token leads nowhere, the walk ends: on the action of the node if it has one,
else with the report that the next token did not resolve. -/
theorem walk_stored_of_nowhere {grammar : Grammar R} {index : Nat} {next : String}
    (hnowhere : grammar.lookup (.stored index) next = .notFound) (position : Nat) (token : String)
    (rest : List String) :
    grammar.walk (.stored index) position token (next :: rest) =
      ⟨grammar.execute (.stored index), grammar,
        if grammar.isExecutable (.stored index) then [.executing (.stored index) position token]
        else [.unresolvedToken (position + 1) next]⟩ := by
  by_cases hexecutable : grammar.isExecutable (.stored index) = true
  · simp [walk, hexecutable, hnowhere]
  · have hidle := execute_of_not_isExecutable (eq_false_of_ne_true hexecutable)
    simp [walk, hexecutable, hidle, advance_of_lookup_eq_notFound hnowhere, walk_notFound]

/-- Where the next token leads on, the walk follows it, also from an executable node. -/
theorem walk_stored_of_leads {grammar : Grammar R} {index : Nat} {next : String}
    (hleads : grammar.lookup (.stored index) next ≠ .notFound) (position : Nat) (token : String)
    (rest : List String) :
    let step := grammar.advance (.stored index) next
    let final := step.grammar.walk step.value (position + 1) next rest
    grammar.walk (.stored index) position token (next :: rest) =
      ⟨final.value, final.grammar,
        (if grammar.isExecutable (.stored index) then [.deferredExecution position token] else []) ++
          step.trace ++ final.trace⟩ := by
  simp [walk, hleads]

/-- The walk runs the node on which it settles and returns the grammar of that moment. -/
theorem walk_eq_settled (node : NodeRef) (position : Nat) (token : String) (rest : List String) :
    (grammar.walk node position token rest).value =
        (grammar.settled node rest).grammar.execute (grammar.settled node rest).value ∧
      (grammar.walk node position token rest).grammar = (grammar.settled node rest).grammar := by
  -- Every step may record, so the grammar changes along the tokens together with the node.
  induction rest generalizing grammar node position token with
  | nil =>
      rw [settled_of_progress_eq_zero rfl]
      cases node with
      | notFound => exact ⟨rfl, rfl⟩
      | stored index =>
          rw [walk_stored_nil]
          exact ⟨rfl, rfl⟩
  | cons next rest ih =>
      cases node with
      | notFound =>
          rw [settled_of_progress_eq_zero (grammar.progress_notFound _)]
          exact ⟨rfl, rfl⟩
      | stored index =>
          by_cases hnowhere : grammar.lookup (.stored index) next = .notFound
          · rw [settled_of_progress_eq_zero (progress_cons_of_nowhere hnowhere rest),
              walk_stored_of_nowhere hnowhere]
            exact ⟨rfl, rfl⟩
          · rw [settled_cons hnowhere, walk_stored_of_leads hnowhere]
            exact ih _ _ _ _

/-! ## What the walk reports -/

/-- What the walk reports on its way, while all tokens lead on. -/
def passing : Grammar R → NodeRef → Nat → String → List String → Trace
  | _, _, _, _, [] => []
  | grammar, node, position, token, next :: rest =>
    let step := grammar.advance node next
    let deferred :=
      if grammar.isExecutable node then [Event.deferredExecution position token] else []
    deferred ++ step.trace ++ passing step.grammar step.value (position + 1) next rest

/-- What the walk reports where it settles, with the tokens that it has left. -/
def stopping (grammar : Grammar R) (node : NodeRef) (position : Nat) (token : String)
    (left : List String) : Trace :=
  if grammar.isExecutable node then [.executing node position token]
  else if node = .notFound then [.unresolvedToken position token]
  else (left.take 1).map (.unresolvedToken (position + 1))

/-- Settling is reported by one event at most. -/
theorem stopping_cases (node : NodeRef) (position : Nat) (token : String) (left : List String) :
    (grammar.isExecutable node = true ∧
        grammar.stopping node position token left = [.executing node position token]) ∨
      (grammar.isExecutable node = false ∧
        (grammar.stopping node position token left = [] ∨
          ∃ index word, grammar.stopping node position token left =
            [.unresolvedToken index word])) := by
  unfold stopping
  cases grammar.isExecutable node with
  | true => exact .inl ⟨rfl, rfl⟩
  | false =>
      refine .inr ⟨rfl, ?_⟩
      by_cases hnowhere : node = .notFound
      · exact .inr ⟨position, token, by simp [hnowhere]⟩
      · cases left with
        | nil => exact .inl (by simp [hnowhere])
        | cons next more => exact .inr ⟨position + 1, next, by simp [hnowhere]⟩

theorem SameStructure.stopping_eq {left right : Grammar R} (hsame : left.SameStructure right) :
    left.stopping = right.stopping := by
  funext node position token rest
  rw [stopping, stopping, hsame.isExecutable_eq]

theorem trace_walk (node : NodeRef) (position : Nat) (token : String) (rest : List String) :
    (grammar.walk node position token rest).trace =
      grammar.passing node position token (rest.take (grammar.progress node rest)) ++
        grammar.stopping (grammar.settled node rest).value (position + grammar.progress node rest)
          ((rest.take (grammar.progress node rest)).getLastD token)
          (rest.drop (grammar.progress node rest)) := by
  induction rest generalizing grammar node position token with
  | nil =>
      rw [settled_of_progress_eq_zero rfl]
      cases node with
      | notFound => rfl
      | stored index =>
          rw [walk_stored_nil]
          rfl
  | cons next rest ih =>
      cases node with
      | notFound =>
          rw [settled_of_progress_eq_zero (grammar.progress_notFound _), progress_notFound]
          rfl
      | stored index =>
          by_cases hnowhere : grammar.lookup (.stored index) next = .notFound
          · rw [settled_of_progress_eq_zero (progress_cons_of_nowhere hnowhere rest),
              walk_stored_of_nowhere hnowhere, progress_cons_of_nowhere hnowhere rest]
            rfl
          · -- The step may record, but it leaves the nodes, and so what lies ahead, as they were.
            have hsame := grammar.advance_sameStructure (.stored index) next
            have hprogress := hsame.progress_eq (grammar.lookup (.stored index) next) rest
            simp only [walk_stored_of_leads hnowhere, settled_cons hnowhere, ih, passing,
              progress_cons_of_leads hnowhere, List.take_succ_cons, List.drop_succ_cons,
              List.getLastD_cons, value_advance, hprogress, hsame.stopping_eq, List.append_assoc]
            rw [Nat.add_assoc, Nat.add_comm 1]

theorem isPassing_of_mem_advance {node : NodeRef} {token : String} {event : Event}
    (hmem : event ∈ (grammar.advance node token).trace) : event.isPassing = true := by
  rcases grammar.advance_cases node token with ⟨_, hstep⟩ | ⟨_, _, _, _, _, hstep⟩ |
    ⟨_, _, own, _, _, _, _, hstep⟩
  · simp [hstep] at hmem
  · simp [hstep] at hmem
  · rw [hstep, StoreTable.push] at hmem
    rcases List.mem_cons.mp hmem with rfl | hdropped
    · rfl
    · split at hdropped
      · obtain rfl := List.mem_singleton.mp hdropped
        rfl
      · cases hdropped

theorem isPassing_of_mem_passing {node : NodeRef} {position : Nat} {token : String}
    {tokens : List String} {event : Event}
    (hmem : event ∈ grammar.passing node position token tokens) : event.isPassing = true := by
  induction tokens generalizing grammar node position token with
  | nil => simp [passing] at hmem
  | cons next rest ih =>
      rw [passing, List.mem_append, List.mem_append] at hmem
      obtain (hdeferred | hstep) | hlater := hmem
      · split at hdeferred
        · obtain rfl := List.mem_singleton.mp hdeferred
          rfl
        · cases hdeferred
      · exact grammar.isPassing_of_mem_advance hstep
      · exact ih _ hlater

/-- On its way the walk reports nothing about how the command ends. -/
theorem filter_passing {kind : Event → Bool}
    (hkind : ∀ event, event.isPassing = true → kind event = false) (node : NodeRef)
    (position : Nat) (token : String) (tokens : List String) :
    (grammar.passing node position token tokens).filter kind = [] := by
  refine List.filter_eq_nil_iff.mpr fun event hmem => ?_
  rw [hkind event (grammar.isPassing_of_mem_passing hmem)]
  exact Bool.false_ne_true

/-- That an execution is put off is no execution. -/
theorem executions_passing (node : NodeRef) (position : Nat) (token : String)
    (tokens : List String) : (grammar.passing node position token tokens).executions = [] := by
  refine grammar.filter_passing (fun event hpassing => ?_) node position token tokens
  cases event <;> first | rfl | cases hpassing

/-- The only action that the walk announces is that of the node on which it settles. -/
theorem executions_walk (node : NodeRef) (position : Nat) (token : String) (rest : List String) :
    (grammar.walk node position token rest).trace.executions =
      if grammar.isExecutable (grammar.settled node rest).value then
        [.executing (grammar.settled node rest).value (position + grammar.progress node rest)
          ((rest.take (grammar.progress node rest)).getLastD token)]
      else [] := by
  rw [trace_walk, Trace.executions_append, executions_passing, List.nil_append]
  rcases grammar.stopping_cases (grammar.settled node rest).value
    (position + grammar.progress node rest)
    ((rest.take (grammar.progress node rest)).getLastD token)
    (rest.drop (grammar.progress node rest)) with
    ⟨hruns, hstop⟩ | ⟨hidle, hstop | ⟨_, _, hstop⟩⟩
  · rw [hstop, if_pos hruns]
    rfl
  · rw [hstop, hidle]
    rfl
  · rw [hstop, hidle]
    rfl

end Grammar

namespace Dispatcher

variable {R : Type} (dispatcher : Dispatcher R) (first : String) (rest : List String)

/-- The position and the grammar with which the walk of a command stops. -/
def settled : Change R NodeRef :=
  dispatcher.grammar.settled (dispatcher.entry first) rest

theorem settled_sameStructure :
    (dispatcher.settled first rest).grammar.SameStructure dispatcher.grammar :=
  dispatcher.grammar.settled_sameStructure (dispatcher.entry first) rest

theorem outcome_runTokens_cons :
    (dispatcher.runTokens (first :: rest)).outcome =
      match (dispatcher.settled first rest).grammar.execute (dispatcher.settled first rest).value with
      | some value => .executed value
      | none => .unmatched ⟨rest.getLastD first⟩ := by
  obtain ⟨hvalue, _⟩ :=
    dispatcher.grammar.walk_eq_settled (dispatcher.entry first) 0 first rest
  unfold settled
  rw [← hvalue, runTokens]
  cases (dispatcher.grammar.walk (dispatcher.entry first) 0 first rest).value <;> rfl

theorem dispatcher_runTokens_cons :
    (dispatcher.runTokens (first :: rest)).dispatcher =
      { dispatcher with
        grammar := (dispatcher.settled first rest).grammar.clearCaptures
          (dispatcher.entry first) } := by
  obtain ⟨_, hgrammar⟩ :=
    dispatcher.grammar.walk_eq_settled (dispatcher.entry first) 0 first rest
  unfold settled
  rw [← hgrammar, runTokens]
  cases (dispatcher.grammar.walk (dispatcher.entry first) 0 first rest).value <;> rfl

/-- A command reports what its walk reports, and then whether anything ran. -/
theorem trace_runTokens_cons :
    (dispatcher.runTokens (first :: rest)).trace =
      (dispatcher.grammar.walk (dispatcher.entry first) 0 first rest).trace ++
        if dispatcher.grammar.isExecutable (dispatcher.settled first rest).value then []
        else [.nothingExecuted (rest.getLastD first)] := by
  have hsame := dispatcher.settled_sameStructure first rest
  obtain ⟨hvalue, _⟩ :=
    dispatcher.grammar.walk_eq_settled (dispatcher.entry first) 0 first rest
  change _ = (dispatcher.settled first rest).grammar.execute
    (dispatcher.settled first rest).value at hvalue
  rw [← hsame.isExecutable_eq, runTokens]
  cases hexecutable : (dispatcher.settled first rest).grammar.isExecutable
      (dispatcher.settled first rest).value with
  | true =>
      obtain ⟨_, _, _, _, hexecute⟩ := Grammar.execute_of_isExecutable hexecutable
      simp [hvalue, hexecute]
  | false =>
      have hexecute := Grammar.execute_of_not_isExecutable hexecutable
      simp [hvalue, hexecute]

theorem executions_runTokens_cons :
    (dispatcher.runTokens (first :: rest)).trace.executions =
      if dispatcher.grammar.isExecutable (dispatcher.settled first rest).value then
        [.executing (dispatcher.settled first rest).value
          (dispatcher.grammar.progress (dispatcher.entry first) rest)
          ((rest.take (dispatcher.grammar.progress (dispatcher.entry first) rest)).getLastD first)]
      else [] := by
  have hidle : Trace.executions (if dispatcher.grammar.isExecutable
      (dispatcher.settled first rest).value then []
        else [.nothingExecuted (rest.getLastD first)]) = [] := by
    split <;> rfl
  rw [trace_runTokens_cons, Trace.executions_append, hidle, List.append_nil,
    Grammar.executions_walk, Nat.zero_add]
  rfl

variable {dispatcher first rest}

theorem resolve_take_progress :
    dispatcher.resolve ((first :: rest).take
      (dispatcher.grammar.progress (dispatcher.entry first) rest + 1)) =
        (dispatcher.settled first rest).value :=
  (dispatcher.grammar.value_settled (dispatcher.entry first) rest).symm

theorem entry_ne_notFound_of_executable
    (hexecutable : dispatcher.grammar.isExecutable (dispatcher.settled first rest).value = true) :
    dispatcher.entry first ≠ .notFound := by
  intro hnone
  rw [settled, Grammar.value_settled, hnone, Grammar.foldl_lookup_notFound] at hexecutable
  simp [Grammar.isExecutable, Grammar.node?] at hexecutable

/-- A walk that settles on a node with an action runs this action, on what was captured by then. -/
theorem runTokens_of_executable
    (hexecutable : dispatcher.grammar.isExecutable (dispatcher.settled first rest).value = true) :
    ∃ found action, dispatcher.grammar.node? (dispatcher.settled first rest).value = some found ∧
      found.action = some action ∧
      (dispatcher.runTokens (first :: rest)).outcome =
        .executed (action (dispatcher.settled first rest).grammar.captures) := by
  have hsame := dispatcher.settled_sameStructure first rest
  rw [← hsame.isExecutable_eq] at hexecutable
  obtain ⟨found, action, hnode, haction, hvalue⟩ := Grammar.execute_of_isExecutable hexecutable
  refine ⟨found, action, hsame.node?_eq _ ▸ hnode, haction, ?_⟩
  rw [outcome_runTokens_cons, hvalue]

/-- A walk that settles anywhere else runs nothing. -/
theorem runTokens_of_not_executable
    (hexecutable : dispatcher.grammar.isExecutable (dispatcher.settled first rest).value = false) :
    (dispatcher.runTokens (first :: rest)).outcome = .unmatched ⟨rest.getLastD first⟩ := by
  have hsame := dispatcher.settled_sameStructure first rest
  rw [← hsame.isExecutable_eq] at hexecutable
  rw [outcome_runTokens_cons, Grammar.execute_of_not_isExecutable hexecutable]

/-- The token at which the walk settles is the last one of the prefix that it has followed. -/
theorem getElem?_progress :
    (first :: rest)[dispatcher.grammar.progress (dispatcher.entry first) rest]? =
      some ((rest.take
        (dispatcher.grammar.progress (dispatcher.entry first) rest)).getLastD first) := by
  have hbound := dispatcher.grammar.progress_le_length (dispatcher.entry first) rest
  generalize dispatcher.grammar.progress (dispatcher.entry first) rest = count at hbound
  cases count with
  | zero => rfl
  | succ count =>
      rw [List.getElem?_cons_succ, List.getLastD_eq_getLast?, List.getLast?_take]
      simp [Nat.lt_of_succ_le hbound]

end Dispatcher

end CommandGrammar
