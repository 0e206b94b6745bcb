import CommandGrammar.Proofs.Session.Invariant

/-! # What an action reads

An action reads every store as it was before the command, followed by what the command itself has
recorded there: the tokens that fell to the wildcard child of a node that captures into the same
logical store, each once and in the order of the command. Looking ahead records nothing, and the
tokens behind the node that runs are never recorded.
-/

namespace CommandGrammar

variable {R : Type}

/-- Recording along the tokens, said by positions: the token at a position is recorded by the node
that the tokens before it lead to. -/
theorem Grammar.recorded_take (grammar : Grammar R) (node : NodeRef) (store : StoreRef)
    (tokens : List String) (count : Nat) :
    grammar.recorded node store (tokens.take count) =
      (List.range count).filterMap fun i =>
        tokens[i]?.filter fun token =>
          grammar.records ((tokens.take i).foldl grammar.lookup node) token store := by
  induction tokens generalizing node count with
  | nil => simp [recorded]
  | cons token rest ih =>
      cases count with
      | zero => rfl
      | succ count =>
          rw [List.take_succ_cons, recorded, ih, List.range_succ_eq_map, List.filterMap_cons,
            List.filterMap_map]
          by_cases hrecords : grammar.records node token store = true <;>
            simp [hrecords, Option.filter_some, Function.comp_def]

namespace Dispatcher

/-- The tokens before and at a position that resolving a command records in a logical store, in
the order of the command: each token that falls to the wildcard child of the node before it, if
that node captures into the store. -/
def recordedTokens (dispatcher : Dispatcher R) (tokens : List String) (index : Nat)
    (store : StoreRef) : List String :=
  (List.range index).filterMap fun i =>
    tokens[i + 1]?.filter fun token =>
      dispatcher.grammar.records (dispatcher.resolve (tokens.take (i + 1))) token store

theorem recordedTokens_cons (dispatcher : Dispatcher R) (first : String) (rest : List String)
    (index : Nat) (store : StoreRef) :
    dispatcher.recordedTokens (first :: rest) index store =
      dispatcher.grammar.recorded (dispatcher.entry first) store (rest.take index) := by
  rw [Grammar.recorded_take]
  rfl

/-- When the walk settles on a node, every store reads what it held before and what the tokens up
to that node have recorded in it. -/
theorem captured_settled {dispatcher : Dispatcher R} {first : String} {rest : List String}
    (hfound : dispatcher.entry first ≠ .notFound) (store : StoreRef) :
    (dispatcher.settled first rest).grammar.captured store =
      dispatcher.grammar.captured store ++
        dispatcher.recordedTokens (first :: rest)
          (dispatcher.grammar.progress (dispatcher.entry first) rest) store := by
  have hbound := dispatcher.grammar.progress_le_length (dispatcher.entry first) rest
  have hresolves := (Grammar.foldl_take_ne_notFound_iff hfound hbound).mpr (Nat.le_refl _)
  rw [recordedTokens_cons]
  exact Grammar.captured_advanceAll hresolves store

/-- A command that is executed runs the action of the node that its tokens up to some position
lead to, and the action reads every store, known or not, as it was before the command followed by
the tokens recorded in it up to that position. -/
theorem runTokens_captures {dispatcher : Dispatcher R} {tokens : List String} {value : R}
    (hrun : (dispatcher.runTokens tokens).outcome = .executed value) :
    ∃ index token found action, tokens[index]? = some token ∧
      (dispatcher.runTokens tokens).trace.executions =
        [.executing (dispatcher.resolve (tokens.take (index + 1))) index token] ∧
      dispatcher.grammar.node? (dispatcher.resolve (tokens.take (index + 1))) = some found ∧
      found.action = some action ∧
      value = action ⟨fun store =>
        dispatcher.grammar.captured store ++ dispatcher.recordedTokens tokens index store⟩ := by
  cases tokens with
  | nil => simp [runTokens] at hrun
  | cons first rest =>
      have hexecutions := dispatcher.executions_runTokens_cons first rest
      by_cases hexecutable :
          dispatcher.grammar.isExecutable (dispatcher.settled first rest).value = true
      · obtain ⟨found, action, hnode, haction, houtcome⟩ := runTokens_of_executable hexecutable
        have hfound := entry_ne_notFound_of_executable hexecutable
        -- A view is no more than what every store reads.
        have hview : (dispatcher.settled first rest).grammar.captures =
            ⟨fun store => dispatcher.grammar.captured store ++
              dispatcher.recordedTokens (first :: rest)
                (dispatcher.grammar.progress (dispatcher.entry first) rest) store⟩ :=
          congrArg Captures.mk (funext (captured_settled hfound))
        rw [if_pos hexecutable] at hexecutions
        rw [houtcome, hview, Outcome.executed.injEq] at hrun
        rw [← resolve_take_progress] at hnode hexecutions
        exact ⟨_, _, found, action, getElem?_progress, hexecutions, hnode, haction, hrun.symm⟩
      · have hidle := runTokens_of_not_executable (by simpa using hexecutable)
        simp [hidle] at hrun

/-- Of `use alice show`, the action of `show` reads `alice` in both unified stores. -/
theorem runTokens_captures_use_alice_show :
    (nameShower.runTokens ["use", "alice", "show"]).outcome = .executed ["alice"] ∧
      ∃ index token found action, ["use", "alice", "show"][index]? = some token ∧
        (nameShower.runTokens ["use", "alice", "show"]).trace.executions =
          [.executing (nameShower.resolve (["use", "alice", "show"].take (index + 1)))
            index token] ∧
        nameShower.grammar.node?
          (nameShower.resolve (["use", "alice", "show"].take (index + 1))) = some found ∧
        found.action = some action ∧
        ["alice"] = action ⟨fun store => nameShower.grammar.captured store ++
          nameShower.recordedTokens ["use", "alice", "show"] index store⟩ :=
  have hrun : (nameShower.runTokens ["use", "alice", "show"]).outcome = .executed ["alice"] := by
    decide
  ⟨hrun, runTokens_captures hrun⟩

end Dispatcher

end CommandGrammar
