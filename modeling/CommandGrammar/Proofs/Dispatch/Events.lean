import CommandGrammar.Proofs.Dispatch.LongestPrefix
import CommandGrammar.Proofs.Session.Integrity

/-! # What the events of a command say

A command reports whether an action ran and on which token, or else that none did and which token
did not resolve. On its way it reports the tokens that it records. These reports are made in
several places of the walk and by the stores; here they are read off the whole sequence of events
and compared with the outcome, with the prefixes that resolve and with what the stores hold.
-/

namespace CommandGrammar

variable {R : Type}

/-! ## Kinds of events -/

namespace Event

/-- Whether the event reports that a token led nowhere. -/
def isUnresolved : Event → Bool
  | .unresolvedToken .. => true
  | _ => false

/-- Whether the event reports that nothing ran. -/
def isIdle : Event → Bool
  | .nothingExecuted _ => true
  | _ => false

/-- The token that the event reports as recorded. -/
def captured? : Event → Option String
  | .capturedToken _ token => some token
  | _ => none

end Event

namespace Trace

/-- The reports of tokens that led nowhere. -/
def unresolved (trace : Trace) : Trace := trace.filter Event.isUnresolved

/-- The reports that nothing ran. -/
def idle (trace : Trace) : Trace := trace.filter Event.isIdle

/-- The tokens that are reported as recorded, in order. -/
def capturedTokens (trace : Trace) : List String := trace.filterMap Event.captured?

@[simp] theorem unresolved_append (first second : Trace) :
    Trace.unresolved (first ++ second) = first.unresolved ++ second.unresolved :=
  List.filter_append first second

@[simp] theorem idle_append (first second : Trace) :
    Trace.idle (first ++ second) = first.idle ++ second.idle :=
  List.filter_append first second

@[simp] theorem capturedTokens_append (first second : Trace) :
    Trace.capturedTokens (first ++ second) = first.capturedTokens ++ second.capturedTokens :=
  List.filterMap_append

end Trace

namespace Grammar

variable {grammar : Grammar R}

/-! ## What a command records -/

/-- The store in which stepping from a node with a token records the token: that of the node, if
the token falls to its wildcard child. -/
def recordsIn? (grammar : Grammar R) (node : NodeRef) (token : String) : Option StoreRef :=
  (grammar.node? node).bind fun found =>
    (found.step? token).bind fun step => if step.2 then found.store else none

/-- What stepping with tokens from a node on records, each token with the store that it goes to.
Where a token leads nowhere, nothing more is recorded. -/
def recordings (grammar : Grammar R) (node : NodeRef) : List String → List (StoreRef × String)
  | [] => []
  | token :: rest =>
    (grammar.recordsIn? node token).toList.map (·, token) ++
      grammar.recordings (grammar.lookup node token) rest

namespace SameStructure

variable {left right : Grammar R}

theorem recordsIn?_eq (hsame : left.SameStructure right) : left.recordsIn? = right.recordsIn? := by
  funext node token
  simp only [recordsIn?, hsame.node?_eq]

theorem recordings_eq (hsame : left.SameStructure right) (node : NodeRef) (tokens : List String) :
    left.recordings node tokens = right.recordings node tokens := by
  induction tokens generalizing node with
  | nil => rfl
  | cons token rest ih => simp only [recordings, hsame.recordsIn?_eq, hsame.lookup_eq, ih]

end SameStructure

theorem recordings_notFound (tokens : List String) : grammar.recordings .notFound tokens = [] := by
  induction tokens with
  | nil => rfl
  | cons token rest ih => exact ih

theorem recordsIn?_of_nowhere {node : NodeRef} {token : String}
    (hnowhere : grammar.lookup node token = .notFound) : grammar.recordsIn? node token = none := by
  unfold lookup at hnowhere
  unfold recordsIn?
  cases hnode : grammar.node? node with
  | none => rfl
  | some found =>
      cases hstep : found.step? token with
      | none => simp [hstep]
      | some step => simp [hnode, hstep] at hnowhere

/-- Nothing is recorded behind the token that leads nowhere. -/
theorem recordings_take_progress (node : NodeRef) (tokens : List String) :
    grammar.recordings node (tokens.take (grammar.progress node tokens)) =
      grammar.recordings node tokens := by
  induction tokens generalizing node with
  | nil => rfl
  | cons token rest ih =>
      by_cases hnowhere : grammar.lookup node token = .notFound
      · rw [progress_cons_of_nowhere hnowhere, recordings, recordsIn?_of_nowhere hnowhere, hnowhere,
          recordings_notFound]
        rfl
      · rw [progress_cons_of_leads hnowhere, List.take_succ_cons, recordings, ih, recordings]

/-- The tokens that go to one logical store. -/
def recordedIn (grammar : Grammar R) (recordings : List (StoreRef × String)) (store : StoreRef) :
    List String :=
  (recordings.filter fun recording => grammar.sameStore recording.1 store).map (·.2)

theorem recordedIn_append (first second : List (StoreRef × String)) (store : StoreRef) :
    grammar.recordedIn (first ++ second) store =
      grammar.recordedIn first store ++ grammar.recordedIn second store := by
  rw [recordedIn, List.filter_append, List.map_append]
  rfl

/-- A step that leads on records its token in every handle of one logical store, or in none. -/
theorem records_eq_of_leads {node : NodeRef} {token : String}
    (hleads : grammar.lookup node token ≠ .notFound) (store : StoreRef) :
    grammar.records node token store =
      (grammar.recordsIn? node token).any fun own => grammar.sameStore own store := by
  unfold lookup at hleads
  unfold records recordsIn?
  cases hnode : grammar.node? node with
  | none => simp [hnode] at hleads
  | some found =>
      cases hstep : found.step? token with
      | none => simp [hnode, hstep] at hleads
      | some step =>
          obtain ⟨index, fell⟩ := step
          rw [Option.any_some, Node.fallsToWildcard_of_step? hstep, Option.bind_some, hstep]
          cases fell <;> simp

theorem recorded_eq_recordedIn {node : NodeRef} {tokens : List String}
    (hresolves : tokens.foldl grammar.lookup node ≠ .notFound) (store : StoreRef) :
    grammar.recorded node store tokens =
      grammar.recordedIn (grammar.recordings node tokens) store := by
  induction tokens generalizing node with
  | nil => rfl
  | cons token rest ih =>
      rw [recorded, recordings, recordedIn_append, ih hresolves,
        records_eq_of_leads (leads_of_foldl_cons hresolves)]
      congr 1
      cases grammar.recordsIn? node token with
      | none => rfl
      | some own => cases hsame : grammar.sameStore own store <;> simp [recordedIn, hsame]

/-- From one grammar to the other exactly these tokens were recorded, in this order: each in a
store that owns a list, and no store holds anything else that is new. -/
structure Recorded (before after : Grammar R) (recordings : List (StoreRef × String)) : Prop where
  resolves : ∀ recording ∈ recordings, ∃ root, before.stores.resolve recording.1 = some root
  captured_eq : ∀ store,
    after.captured store = before.captured store ++ before.recordedIn recordings store

theorem StoresAnswer.resolve_of_mem_recordings (hanswer : grammar.StoresAnswer) {node : NodeRef}
    {tokens : List String} {recording : StoreRef × String}
    (hmem : recording ∈ grammar.recordings node tokens) :
    ∃ root, grammar.stores.resolve recording.1 = some root := by
  induction tokens generalizing node with
  | nil => simp [recordings] at hmem
  | cons token rest ih =>
      rcases List.mem_append.mp hmem with hhere | hlater
      · obtain ⟨own, hown, rfl⟩ := List.mem_map.mp hhere
        rw [Option.mem_toList, recordsIn?] at hown
        obtain ⟨found, hnode, hown⟩ := Option.bind_eq_some_iff.mp hown
        obtain ⟨step, -, hown⟩ := Option.bind_eq_some_iff.mp hown
        obtain ⟨index, -, hindex⟩ := node?_eq_some_iff.mp hnode
        obtain ⟨-, hstore⟩ := Option.ite_none_right_eq_some.mp hown
        exact hanswer index own (by rw [storeAt, hindex, Option.bind_some, hstore])
      · exact ih hlater

/-- By the time the walk settles, exactly its recordings were recorded. -/
theorem StoresAnswer.recorded_settled (hanswer : grammar.StoresAnswer) (node : NodeRef)
    (tokens : List String) :
    grammar.Recorded (grammar.settled node tokens).grammar (grammar.recordings node tokens) := by
  refine ⟨fun _ => hanswer.resolve_of_mem_recordings, fun store => ?_⟩
  cases node with
  | notFound =>
      rw [settled_of_progress_eq_zero (grammar.progress_notFound tokens), recordings_notFound]
      exact (List.append_nil _).symm
  | stored index =>
      have hbound := grammar.progress_le_length (.stored index) tokens
      have hresolves := (foldl_take_ne_notFound_iff NodeRef.noConfusion hbound).mpr (Nat.le_refl _)
      rw [settled, captured_advanceAll hresolves, recorded_eq_recordedIn hresolves,
        recordings_take_progress]

/-! ## What a command reports -/

/-- Recording is reported exactly if the node captures and the token falls to its wildcard. -/
theorem capturedTokens_advance (node : NodeRef) (token : String) :
    (grammar.advance node token).trace.capturedTokens =
      (grammar.recordsIn? node token).toList.map fun _ => token := by
  have hpush : ∀ own, Trace.capturedTokens (grammar.stores.push own token).2 = [] := by
    intro own
    unfold StoreTable.push
    split <;> rfl
  unfold advance recordsIn?
  cases grammar.node? node with
  | none => rfl
  | some found =>
      cases hstep : found.step? token with
      | none => simp [hstep, Trace.capturedTokens]
      | some step =>
          obtain ⟨index, fell⟩ := step
          cases fell with
          | false => simp [hstep, Trace.capturedTokens]
          | true =>
              cases hstore : found.store with
              | none => simp [hstep, hstore, Trace.capturedTokens]
              | some own =>
                  simp only [hstep, hstore, Option.bind_some, if_true, Option.toList_some,
                    List.map_cons, List.map_nil]
                  exact congrArg (token :: ·) (hpush own)

theorem capturedTokens_passing (node : NodeRef) (position : Nat) (token : String)
    (tokens : List String) :
    (grammar.passing node position token tokens).capturedTokens =
      (grammar.recordings node tokens).map (·.2) := by
  induction tokens generalizing grammar node position token with
  | nil => rfl
  | cons next rest ih =>
      have hsame := grammar.advance_sameStructure node next
      have hdeferred : Trace.capturedTokens (if grammar.isExecutable node
          then [.deferredExecution position token] else []) = [] := by
        split <;> rfl
      simp only [passing, Trace.capturedTokens_append, hdeferred, capturedTokens_advance, ih,
        hsame.recordings_eq, value_advance, recordings, List.nil_append, List.map_append,
        List.map_map, Function.comp_def]

theorem unresolved_passing (node : NodeRef) (position : Nat) (token : String)
    (tokens : List String) : (grammar.passing node position token tokens).unresolved = [] := by
  refine grammar.filter_passing (fun event hpassing => ?_) node position token tokens
  cases event <;> first | rfl | cases hpassing

theorem idle_passing (node : NodeRef) (position : Nat) (token : String)
    (tokens : List String) : (grammar.passing node position token tokens).idle = [] := by
  refine grammar.filter_passing (fun event hpassing => ?_) node position token tokens
  cases event <;> first | rfl | cases hpassing

theorem unresolved_stopping (node : NodeRef) (position : Nat) (token : String)
    (left : List String) :
    (grammar.stopping node position token left).unresolved =
      if grammar.isExecutable node then [] else grammar.stopping node position token left := by
  rcases grammar.stopping_cases node position token left with
    ⟨hruns, hstop⟩ | ⟨hidle, hstop | ⟨_, _, hstop⟩⟩
  · rw [hstop, if_pos hruns]
    rfl
  · rw [hstop, hidle]
    rfl
  · rw [hstop, hidle]
    rfl

theorem idle_stopping (node : NodeRef) (position : Nat) (token : String) (left : List String) :
    (grammar.stopping node position token left).idle = [] := by
  rcases grammar.stopping_cases node position token left with
    ⟨_, hstop⟩ | ⟨_, hstop | ⟨_, _, hstop⟩⟩ <;> rw [hstop] <;> rfl

theorem capturedTokens_stopping (node : NodeRef) (position : Nat) (token : String)
    (left : List String) : (grammar.stopping node position token left).capturedTokens = [] := by
  rcases grammar.stopping_cases node position token left with
    ⟨_, hstop⟩ | ⟨_, hstop | ⟨_, _, hstop⟩⟩ <;> rw [hstop] <;> rfl

theorem idle_walk (node : NodeRef) (position : Nat) (token : String) (rest : List String) :
    (grammar.walk node position token rest).trace.idle = [] := by
  rw [trace_walk, Trace.idle_append, idle_passing, idle_stopping]
  rfl

theorem capturedTokens_walk (node : NodeRef) (position : Nat) (token : String)
    (rest : List String) :
    (grammar.walk node position token rest).trace.capturedTokens =
      (grammar.recordings node rest).map (·.2) := by
  rw [trace_walk, Trace.capturedTokens_append, capturedTokens_passing, capturedTokens_stopping,
    recordings_take_progress, List.append_nil]

end Grammar

namespace Dispatcher

variable {dispatcher : Dispatcher R} {first : String} {rest : List String}

/-- The prefix that ends at this position does not resolve, and every shorter one does. -/
structure FirstUnresolved (dispatcher : Dispatcher R) (tokens : List String) (index : Nat) :
    Prop where
  lt_length : index < tokens.length
  unresolved : dispatcher.resolve (tokens.take (index + 1)) = .notFound
  resolved : ∀ length, 0 < length → length ≤ index →
    dispatcher.resolve (tokens.take length) ≠ .notFound

theorem firstUnresolved_zero (hentry : dispatcher.entry first = .notFound) :
    dispatcher.FirstUnresolved (first :: rest) 0 where
  lt_length := Nat.succ_pos _
  unresolved := hentry
  resolved := fun _ hpos hle => absurd hpos (Nat.not_lt_of_le hle)

/-- Behind the longest prefix that resolves comes the first token that does not. -/
theorem LongestResolved.firstUnresolved {length : Nat}
    (hlongest : dispatcher.LongestResolved (first :: rest) length)
    (hlt : length < (first :: rest).length) :
    dispatcher.FirstUnresolved (first :: rest) length := by
  refine ⟨hlt, hlongest.longest _ (Nat.lt_succ_self _) hlt, fun shorter hpos hle => ?_⟩
  obtain ⟨hentry, rfl⟩ := (dispatcher.longestResolved_cons_iff first rest length).mp hlongest
  obtain ⟨count, rfl⟩ := Nat.exists_eq_succ_of_ne_zero (Nat.ne_of_gt hpos)
  have hcount := Nat.le_of_succ_le_succ hle
  have hbound := dispatcher.grammar.progress_le_length (dispatcher.entry first) rest
  exact (Grammar.foldl_take_ne_notFound_iff hentry (Nat.le_trans hcount hbound)).mpr hcount

/-- A walk that runs an action has nothing to report that did not resolve. -/
theorem unresolved_walk_of_executable
    (hexecutable : dispatcher.grammar.isExecutable (dispatcher.settled first rest).value = true) :
    (dispatcher.grammar.walk (dispatcher.entry first) 0 first rest).trace.unresolved = [] := by
  rw [Grammar.trace_walk, Trace.unresolved_append, Grammar.unresolved_passing,
    Grammar.unresolved_stopping]
  exact if_pos hexecutable

/-- A walk that runs nothing reports the first token that does not resolve, if there is one. -/
theorem unresolved_walk_of_not_executable
    (hidle : dispatcher.grammar.isExecutable (dispatcher.settled first rest).value = false) :
    let walked := dispatcher.grammar.walk (dispatcher.entry first) 0 first rest
    let unresolved := walked.trace.unresolved
    (dispatcher.resolve (first :: rest) ≠ .notFound ∧ unresolved = []) ∨
      ∃ index token, dispatcher.FirstUnresolved (first :: rest) index ∧
        (first :: rest)[index]? = some token ∧ unresolved = [.unresolvedToken index token] := by
  intro walked unresolved
  let count := dispatcher.grammar.progress (dispatcher.entry first) rest
  have hunresolved : unresolved =
      if (dispatcher.settled first rest).value = .notFound then
        [.unresolvedToken count ((rest.take count).getLastD first)]
      else ((rest.drop count).take 1).map (.unresolvedToken (count + 1)) := by
    simp only [unresolved, walked, Grammar.trace_walk, Trace.unresolved_append,
      Grammar.unresolved_passing, Grammar.unresolved_stopping, List.nil_append, Nat.zero_add]
    rw [settled] at hidle
    simp only [Grammar.stopping, hidle, Bool.false_eq_true, if_false]
    rfl
  by_cases hentry : dispatcher.entry first = .notFound
  · have hcount : count = 0 := by
      simp only [count, hentry, Grammar.progress_notFound]
    have hvalue : (dispatcher.settled first rest).value = .notFound := by
      rw [settled, hentry, Grammar.value_settled, Grammar.foldl_lookup_notFound]
    refine .inr ⟨0, first, firstUnresolved_zero hentry, rfl, ?_⟩
    rw [hunresolved, if_pos hvalue, hcount]
    rfl
  · -- The walk settles behind the longest prefix, so the first token left did not resolve.
    have hlongest := (dispatcher.longestResolved_cons_iff first rest _).mpr ⟨hentry, rfl⟩
    have hvalue : (dispatcher.settled first rest).value ≠ .notFound :=
      hlongest.resolve_eq_settled ▸ hlongest.resolves
    rw [if_neg hvalue] at hunresolved
    cases hleft : rest.drop count with
    | nil =>
        have hall : (first :: rest).take (count + 1) = first :: rest :=
          List.take_of_length_le (Nat.succ_le_succ (List.drop_eq_nil_iff.mp hleft))
        refine .inl ⟨hall ▸ hlongest.resolves, ?_⟩
        rw [hunresolved, hleft]
        rfl
    | cons next more =>
        have hnext : rest[count]? = some next := by
          rw [← List.head?_drop, hleft, List.head?_cons]
        have hlt : count < rest.length := (List.getElem?_eq_some_iff.mp hnext).1
        refine .inr ⟨count + 1, next, hlongest.firstUnresolved (Nat.succ_lt_succ hlt), hnext, ?_⟩
        rw [hunresolved, hleft]
        rfl

theorem events_of_executable
    (hexecutable : dispatcher.grammar.isExecutable (dispatcher.settled first rest).value = true) :
    let trace := (dispatcher.runTokens (first :: rest)).trace
    (∃ length token, dispatcher.LongestResolved (first :: rest) length ∧
      (first :: rest)[length - 1]? = some token ∧
      trace.executions =
        [.executing (dispatcher.resolve ((first :: rest).take length)) (length - 1) token]) ∧
      trace.idle = [] ∧ trace.unresolved = [] := by
  have hentry := entry_ne_notFound_of_executable hexecutable
  have hlongest := (dispatcher.longestResolved_cons_iff first rest _).mpr ⟨hentry, rfl⟩
  have hexecutions := dispatcher.executions_runTokens_cons first rest
  have htrace := dispatcher.trace_runTokens_cons first rest
  rw [if_pos hexecutable] at hexecutions htrace
  rw [List.append_nil] at htrace
  refine ⟨⟨_, _, hlongest, getElem?_progress, ?_⟩, ?_, ?_⟩
  · rw [hlongest.resolve_eq_settled]
    exact hexecutions
  · rw [htrace, Grammar.idle_walk]
  · rw [htrace, unresolved_walk_of_executable hexecutable]

theorem events_of_not_executable
    (hidle : dispatcher.grammar.isExecutable (dispatcher.settled first rest).value = false) :
    let trace := (dispatcher.runTokens (first :: rest)).trace
    trace.executions = [] ∧ trace.idle = [.nothingExecuted (rest.getLastD first)] ∧
      ((dispatcher.resolve (first :: rest) ≠ .notFound ∧ trace.unresolved = []) ∨
        ∃ index token, dispatcher.FirstUnresolved (first :: rest) index ∧
          (first :: rest)[index]? = some token ∧
          trace.unresolved = [.unresolvedToken index token]) := by
  have hnot := ne_true_of_eq_false hidle
  have hexecutions := dispatcher.executions_runTokens_cons first rest
  have htrace := dispatcher.trace_runTokens_cons first rest
  have hunresolved := unresolved_walk_of_not_executable hidle
  rw [if_neg hnot] at hexecutions htrace
  refine ⟨hexecutions, ?_, ?_⟩
  · rw [htrace, Trace.idle_append, Grammar.idle_walk]
    rfl
  · have hend : Trace.unresolved [.nothingExecuted (rest.getLastD first)] = [] := rfl
    rw [htrace, Trace.unresolved_append, hend, List.append_nil]
    exact hunresolved

theorem capturedTokens_runTokens_cons (dispatcher : Dispatcher R) (first : String)
    (rest : List String) :
    (dispatcher.runTokens (first :: rest)).trace.capturedTokens =
      (dispatcher.grammar.recordings (dispatcher.entry first) rest).map (·.2) := by
  have hlast : Trace.capturedTokens (if dispatcher.grammar.isExecutable
      (dispatcher.settled first rest).value then []
        else [.nothingExecuted (rest.getLastD first)]) = [] := by
    split <;> rfl
  rw [trace_runTokens_cons, Trace.capturedTokens_append, Grammar.capturedTokens_walk, hlast,
    List.append_nil]

/-- The events of a command are true. If an action runs, exactly one execution is reported, that of
the longest prefix that resolves, with the place and the text of its last token, and no failure. If
none runs, exactly this is reported, with the token of the diagnostic, and at most one token that
did not resolve: the first one, unless all of them do. The tokens reported as recorded are those
that the walk records, in order: where it settles, every store has these of them that belong to
it behind what it held before, and nothing else; after that the run only clears. -/
theorem Reachable.events_tell_the_truth (hreach : dispatcher.Reachable) (first : String)
    (rest : List String) :
    let tokens := first :: rest
    let run := dispatcher.runTokens tokens
    let walked := dispatcher.grammar.walk (dispatcher.entry first) 0 first rest
    let recordings := dispatcher.grammar.recordings (dispatcher.entry first) rest
    (∀ value, run.outcome = .executed value →
      (∃ length token, dispatcher.LongestResolved tokens length ∧
        tokens[length - 1]? = some token ∧
        run.trace.executions =
          [.executing (dispatcher.resolve (tokens.take length)) (length - 1) token]) ∧
        run.trace.idle = [] ∧ run.trace.unresolved = []) ∧
    (∀ diagnostic, run.outcome = .unmatched diagnostic →
      run.trace.executions = [] ∧ run.trace.idle = [.nothingExecuted diagnostic.token] ∧
        ((dispatcher.resolve tokens ≠ .notFound ∧ run.trace.unresolved = []) ∨
          ∃ index token, dispatcher.FirstUnresolved tokens index ∧ tokens[index]? = some token ∧
            run.trace.unresolved = [.unresolvedToken index token])) ∧
    run.trace.capturedTokens = recordings.map (·.2) ∧
    dispatcher.grammar.Recorded walked.grammar recordings ∧
    run.dispatcher.grammar = walked.grammar.clearCaptures (dispatcher.entry first) := by
  intro tokens run walked recordings
  have hgrammar : walked.grammar = (dispatcher.settled first rest).grammar :=
    (dispatcher.grammar.walk_eq_settled (dispatcher.entry first) 0 first rest).2
  have hcaptured := dispatcher.capturedTokens_runTokens_cons first rest
  have hrecorded := hreach.storesAnswer.recorded_settled (dispatcher.entry first) rest
  have hcleared := dispatcher.dispatcher_runTokens_cons first rest
  refine ⟨fun value houtcome => ?_, fun diagnostic houtcome => ?_, hcaptured, ?_, ?_⟩
  · cases hexecutable : dispatcher.grammar.isExecutable (dispatcher.settled first rest).value with
    | true => exact events_of_executable hexecutable
    | false =>
        rw [runTokens_of_not_executable hexecutable] at houtcome
        cases houtcome
  · cases hexecutable : dispatcher.grammar.isExecutable (dispatcher.settled first rest).value with
    | true =>
        obtain ⟨_, _, _, _, hexecuted⟩ := runTokens_of_executable hexecutable
        rw [hexecuted] at houtcome
        cases houtcome
    | false =>
        have hdiagnostic := (runTokens_of_not_executable hexecutable).symm.trans houtcome
        obtain rfl := Outcome.unmatched.inj hdiagnostic
        exact events_of_not_executable hexecutable
  · rw [hgrammar]
    exact hrecorded
  · rw [hgrammar]
    exact congrArg (·.grammar) hcleared

/-- Of `use alice`, both `show` and `hide` report that `alice` is recorded. The first runs an action
and reports no failure, the second runs none and reports that on `hide`. -/
theorem events_tell_the_truth_use_alice :
    let shown := nameShower.runTokens ["use", "alice", "show"]
    let hidden := nameShower.runTokens ["use", "alice", "hide"]
    nameShower.Reachable ∧
      (shown.outcome = .executed ["alice"] ∧ shown.trace.idle = [] ∧
        shown.trace.unresolved = [] ∧ shown.trace.capturedTokens = ["alice"]) ∧
      (hidden.outcome = .unmatched ⟨"hide"⟩ ∧ hidden.trace.executions = [] ∧
        hidden.trace.idle = [.nothingExecuted "hide"] ∧
        hidden.trace.capturedTokens = ["alice"]) := by
  obtain ⟨hexecuted, -, hshow, -⟩ :=
    nameShower_reachable.events_tell_the_truth "use" ["alice", "show"]
  obtain ⟨-, hunmatched, hhide, -⟩ :=
    nameShower_reachable.events_tell_the_truth "use" ["alice", "hide"]
  have hrun : (nameShower.runTokens ["use", "alice", "show"]).outcome = .executed ["alice"] := by
    decide
  have hstop : (nameShower.runTokens ["use", "alice", "hide"]).outcome = .unmatched ⟨"hide"⟩ := by
    decide
  obtain ⟨-, hidle, hunresolved⟩ := hexecuted _ hrun
  obtain ⟨hexecutions, hfailed, -⟩ := hunmatched _ hstop
  exact ⟨nameShower_reachable, ⟨hrun, hidle, hunresolved, hshow.trans (by decide)⟩,
    hstop, hexecutions, hfailed, hhide.trans (by decide)⟩

end Dispatcher

end CommandGrammar
