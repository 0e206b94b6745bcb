import CommandGrammar.Proofs.Dispatch.Recording

/-! # Where a command arrives

Seen from one store, all that matters of a command is the position on which its walk settles and
the tokens that the store has recorded by then. Both follow from the steps that the nodes offer, so
a grammar can be read as a table of steps, without the grammars that lie between them.
-/

namespace CommandGrammar

variable {R : Type}

namespace Grammar

/-- The position on which the walk over the tokens settles, and what a logical store records on the
way there. -/
def arrive (grammar : Grammar R) (store : StoreRef) : NodeRef → List String → NodeRef × List String
  | node, [] => (node, [])
  | node, token :: rest =>
    if grammar.lookup node token = .notFound then (node, [])
    else
      let final := grammar.arrive store (grammar.lookup node token) rest
      (final.1, (if grammar.records node token store then [token] else []) ++ final.2)

variable {grammar : Grammar R} {store : StoreRef} {node : NodeRef} {token : String}

theorem arrive_cons_of_nowhere (hnowhere : grammar.lookup node token = .notFound)
    (rest : List String) : grammar.arrive store node (token :: rest) = (node, []) := by
  rw [arrive, if_pos hnowhere]

theorem arrive_cons_of_recorded {target : Nat}
    (hleads : grammar.lookup node token = .stored target)
    (hrecords : grammar.records node token store = true) (rest : List String) :
    grammar.arrive store node (token :: rest) =
      ((grammar.arrive store (.stored target) rest).1,
        token :: (grammar.arrive store (.stored target) rest).2) := by
  simp [arrive, hleads, hrecords]

theorem arrive_cons_of_silent {target : Nat}
    (hleads : grammar.lookup node token = .stored target)
    (hrecords : grammar.records node token store = false) (rest : List String) :
    grammar.arrive store node (token :: rest) = grammar.arrive store (.stored target) rest := by
  simp [arrive, hleads, hrecords]

theorem arrive_eq (tokens : List String) :
    grammar.arrive store node tokens =
      ((tokens.take (grammar.progress node tokens)).foldl grammar.lookup node,
        grammar.recorded node store (tokens.take (grammar.progress node tokens))) := by
  induction tokens generalizing node with
  | nil => rfl
  | cons token rest ih =>
      by_cases hleads : grammar.lookup node token = .notFound
      · rw [arrive_cons_of_nowhere hleads, progress_cons_of_nowhere hleads]
        rfl
      · rw [arrive, if_neg hleads, progress_cons_of_leads hleads, List.take_succ_cons, ih]
        rfl

end Grammar

namespace Dispatcher

variable {dispatcher : Dispatcher R} {first : String} {rest : List String} {store : StoreRef}

theorem settled_eq_arrive (dispatcher : Dispatcher R) (first : String) (rest : List String)
    (store : StoreRef) :
    (dispatcher.settled first rest).value =
      (dispatcher.grammar.arrive store (dispatcher.entry first) rest).1 := by
  rw [settled, Grammar.value_settled, Grammar.arrive_eq]

/-- A command that arrives at a node with an action on an empty store executes it, and the action
reads there what the store has recorded. -/
theorem runTokens_of_arrives {node : NodeRef} {values : List String} {found : Node R}
    {callback : List String → R} (hempty : dispatcher.grammar.captured store = [])
    (harrives : dispatcher.grammar.arrive store (dispatcher.entry first) rest = (node, values))
    (hnode : dispatcher.grammar.node? node = some found)
    (haction : found.action = some fun captures => callback (captures.values store)) :
    (dispatcher.runTokens (first :: rest)).outcome = .executed (callback values) := by
  have hsettled : (dispatcher.settled first rest).value = node := by
    rw [dispatcher.settled_eq_arrive first rest store, harrives]
  have hexecutable :
      dispatcher.grammar.isExecutable (dispatcher.settled first rest).value = true := by
    simp [hsettled, Grammar.isExecutable, hnode, Node.isExecutable, haction]
  obtain ⟨found', action, hnode', haction', houtcome⟩ := runTokens_of_executable hexecutable
  rw [hsettled, hnode, Option.some.injEq] at hnode'
  rw [← hnode', haction, Option.some.injEq] at haction'
  have hread : (dispatcher.settled first rest).grammar.captured store = values := by
    rw [captured_settled (entry_ne_notFound_of_executable hexecutable), hempty, List.nil_append,
      recordedTokens_cons]
    rw [Grammar.arrive_eq] at harrives
    exact congrArg Prod.snd harrives
  rw [houtcome, ← haction']
  exact congrArg (fun read => Outcome.executed (callback read)) hread

/-- A command that arrives at a node without an action runs nothing. -/
theorem runTokens_of_arrives_idle
    (hidle : dispatcher.grammar.isExecutable
      (dispatcher.grammar.arrive store (dispatcher.entry first) rest).1 = false) :
    (dispatcher.runTokens (first :: rest)).outcome = .unmatched ⟨rest.getLastD first⟩ ∧
      (dispatcher.runTokens (first :: rest)).trace.executions = [] := by
  rw [← dispatcher.settled_eq_arrive first rest store] at hidle
  refine ⟨runTokens_of_not_executable hidle, ?_⟩
  rw [executions_runTokens_cons, hidle]
  rfl

end Dispatcher

end CommandGrammar
