import CommandGrammar.Proofs.Dispatch.Walk

/-! # Dispatch by the longest resolved prefix

The walk looks one token ahead and never goes back. What it does can be said without it: of the
prefixes of a command, take the longest one that resolves; its node runs if it has an action, and
otherwise nothing runs. No invariant of the grammar is needed for this, so it also holds of
cyclic grammars, of shared nodes and after children were replaced.
-/

namespace CommandGrammar.Dispatcher

variable {R : Type} (dispatcher : Dispatcher R)

/-- The prefix of this length is not empty, it resolves, and no longer prefix does. -/
structure LongestResolved (tokens : List String) (length : Nat) : Prop where
  pos : 0 < length
  le_length : length ≤ tokens.length
  resolves : dispatcher.resolve (tokens.take length) ≠ .notFound
  longest : ∀ longer, length < longer → longer ≤ tokens.length →
    dispatcher.resolve (tokens.take longer) = .notFound

/-- The longest prefix that resolves has one token more than the walk makes progress. -/
theorem longestResolved_cons_iff (first : String) (rest : List String) (length : Nat) :
    dispatcher.LongestResolved (first :: rest) length ↔
      dispatcher.entry first ≠ .notFound ∧
        length = dispatcher.grammar.progress (dispatcher.entry first) rest + 1 := by
  have hbound := dispatcher.grammar.progress_le_length (dispatcher.entry first) rest
  constructor
  · intro hlongest
    obtain ⟨count, rfl⟩ := Nat.exists_eq_succ_of_ne_zero (Nat.ne_of_gt hlongest.pos)
    have hcount : count ≤ rest.length := Nat.le_of_succ_le_succ hlongest.le_length
    have hresolves : (rest.take count).foldl dispatcher.grammar.lookup (dispatcher.entry first) ≠
        .notFound := hlongest.resolves
    have hentry : dispatcher.entry first ≠ .notFound := by
      intro hnone
      rw [hnone, Grammar.foldl_lookup_notFound] at hresolves
      exact hresolves rfl
    have hle := (Grammar.foldl_take_ne_notFound_iff hentry hcount).mp hresolves
    refine ⟨hentry, ?_⟩
    -- With more progress than that, a longer prefix would resolve.
    rcases Nat.lt_or_eq_of_le hle with hlt | heq
    · have hlonger := hlongest.longest _ (Nat.succ_lt_succ hlt) (Nat.succ_le_succ hbound)
      exact absurd hlonger
        ((Grammar.foldl_take_ne_notFound_iff hentry hbound).mpr (Nat.le_refl _))
    · exact congrArg Nat.succ heq
  · rintro ⟨hentry, rfl⟩
    refine ⟨Nat.succ_pos _, Nat.succ_le_succ hbound, ?_, ?_⟩
    · exact (Grammar.foldl_take_ne_notFound_iff hentry hbound).mpr (Nat.le_refl _)
    · intro longer hlonger hle
      obtain ⟨count, rfl⟩ := Nat.exists_eq_succ_of_ne_zero (Nat.ne_zero_of_lt hlonger)
      have hstops : ¬ (rest.take count).foldl dispatcher.grammar.lookup
          (dispatcher.entry first) ≠ .notFound := by
        rw [Grammar.foldl_take_ne_notFound_iff hentry (Nat.le_of_succ_le_succ hle)]
        omega
      exact Decidable.not_not.mp hstops

theorem not_longestResolved_nil (length : Nat) : ¬ dispatcher.LongestResolved [] length := by
  intro hlongest
  exact absurd hlongest.pos (Nat.not_lt_of_le hlongest.le_length)

/-- The walk settles on the node of the longest prefix that resolves. -/
theorem LongestResolved.resolve_eq_settled {dispatcher : Dispatcher R} {first : String}
    {rest : List String} {length : Nat}
    (hlongest : dispatcher.LongestResolved (first :: rest) length) :
    dispatcher.resolve ((first :: rest).take length) = (dispatcher.settled first rest).value := by
  obtain ⟨_, rfl⟩ := (dispatcher.longestResolved_cons_iff first rest length).mp hlongest
  exact resolve_take_progress

/-- The longest prefix that resolves ends on a node with an action. -/
def RunsAt (tokens : List String) (length : Nat) : Prop :=
  dispatcher.LongestResolved tokens length ∧
    dispatcher.grammar.isExecutable (dispatcher.resolve (tokens.take length)) = true

theorem exists_runsAt_cons_iff (first : String) (rest : List String) :
    (∃ length, dispatcher.RunsAt (first :: rest) length) ↔
      dispatcher.grammar.isExecutable (dispatcher.settled first rest).value = true := by
  constructor
  · rintro ⟨length, hlongest, hexecutable⟩
    rwa [hlongest.resolve_eq_settled] at hexecutable
  · intro hexecutable
    have hentry := entry_ne_notFound_of_executable hexecutable
    have hlongest := (dispatcher.longestResolved_cons_iff first rest _).mpr ⟨hentry, rfl⟩
    refine ⟨_, hlongest, ?_⟩
    rwa [hlongest.resolve_eq_settled]

/-- Greedy dispatch is dispatch by the longest prefix that resolves. A command is executed exactly
if that prefix ends on a node with an action, and then this one action runs, at the last token of
the prefix. Otherwise nothing runs, and the diagnostic carries the final token of the command,
whichever token did not resolve. -/
theorem runTokens_longest_prefix (tokens : List String) :
    ((∃ value, (dispatcher.runTokens tokens).outcome = .executed value) ↔
      ∃ length, dispatcher.RunsAt tokens length) ∧
    (∀ length, dispatcher.RunsAt tokens length →
      ∃ found action captures last,
        dispatcher.grammar.node? (dispatcher.resolve (tokens.take length)) = some found ∧
        found.action = some action ∧ tokens[length - 1]? = some last ∧
        (dispatcher.runTokens tokens).outcome = .executed (action captures) ∧
        (dispatcher.runTokens tokens).trace.executions =
          [.executing (dispatcher.resolve (tokens.take length)) (length - 1) last]) ∧
    ((¬ ∃ length, dispatcher.RunsAt tokens length) →
      (dispatcher.runTokens tokens).outcome = .unmatched ⟨tokens.getLastD ""⟩ ∧
        (dispatcher.runTokens tokens).trace.executions = []) := by
  cases tokens with
  | nil =>
      have hnever : ∀ length, ¬ dispatcher.RunsAt [] length := fun length hruns =>
        dispatcher.not_longestResolved_nil length hruns.1
      refine ⟨?_, fun length hruns => absurd hruns (hnever length), fun _ => ⟨rfl, rfl⟩⟩
      constructor
      · rintro ⟨value, hrun⟩
        simp [runTokens] at hrun
      · rintro ⟨length, hruns⟩
        exact absurd hruns (hnever length)
  | cons first rest =>
      have hwhere := dispatcher.exists_runsAt_cons_iff first rest
      have hexecutions := dispatcher.executions_runTokens_cons first rest
      by_cases hexecutable :
          dispatcher.grammar.isExecutable (dispatcher.settled first rest).value = true
      · obtain ⟨found, action, hnode, haction, houtcome⟩ := runTokens_of_executable hexecutable
        rw [if_pos hexecutable] at hexecutions
        refine ⟨⟨fun _ => hwhere.mpr hexecutable, fun _ => ⟨_, houtcome⟩⟩, ?_,
          fun hnever => absurd (hwhere.mpr hexecutable) hnever⟩
        rintro length ⟨hlongest, _⟩
        obtain ⟨_, rfl⟩ := (dispatcher.longestResolved_cons_iff first rest length).mp hlongest
        rw [hlongest.resolve_eq_settled]
        exact ⟨found, action, _, _, hnode, haction, getElem?_progress, houtcome, hexecutions⟩
      · have hidle := runTokens_of_not_executable (eq_false_of_ne_true hexecutable)
        rw [if_neg hexecutable] at hexecutions
        have hnever := mt hwhere.mp hexecutable
        refine ⟨⟨?_, fun hruns => absurd hruns hnever⟩,
          fun length hruns => absurd ⟨length, hruns⟩ hnever, fun _ => ⟨?_, hexecutions⟩⟩
        · rintro ⟨value, hrun⟩
          simp [hidle] at hrun
        · rw [hidle, List.getLastD_cons]

end CommandGrammar.Dispatcher
