import CommandGrammar.Proofs.Grammar.Indexed
import CommandGrammar.Proofs.Session.Invariant

/-! # Referential integrity

Every handle that a dispatcher stores is known to it: children and entries are stored nodes, and
a capturing node captures into a store that exists. So a step from any handle ends on a stored
node or nowhere, and what is recorded on the way is never dropped.
-/

namespace CommandGrammar

variable {R : Type}

namespace Grammar

/-- The store of every capturing node leads to a list. -/
def StoresAnswer (grammar : Grammar R) : Prop :=
  ∀ index own, grammar.storeAt index = some own → ∃ root, grammar.stores.resolve own = some root

variable {grammar other : Grammar R}

theorem WellFormed.storesAnswer (hwf : grammar.WellFormed) (hgrounded : grammar.stores.Grounded) :
    grammar.StoresAnswer :=
  fun index own hown => hgrounded own (hwf.stores_known index own hown)

theorem StoresAnswer.of_sameStructure (hanswer : grammar.StoresAnswer)
    (hsame : other.SameStructure grammar) : other.StoresAnswer := by
  intro index own hown
  rw [hsame.storeAt_eq] at hown
  rw [hsame.stores.resolve_eq]
  exact hanswer index own hown

theorem Grows.grounded (hgrows : grammar.Grows other) (hgrounded : grammar.stores.Grounded) :
    other.stores.Grounded := by
  cases hgrows with
  | store => exact hgrounded.create
  | node => exact hgrounded
  | edge parent key child =>
      rw [stores_link]
      split
      · exact hgrounded.unify _ _
      · exact hgrounded

theorem grounded_of_steps (hsteps : Relation.ReflTransGen Grows grammar other)
    (hgrounded : grammar.stores.Grounded) : other.stores.Grounded := by
  induction hsteps with
  | refl => exact hgrounded
  | tail _ hstep ih => exact hstep.grounded ih

/-- Construction adds nodes and never removes one. -/
theorem Grows.size_le (hgrows : grammar.Grows other) : grammar.nodes.size ≤ other.nodes.size := by
  cases hgrows with
  | store => exact Nat.le_refl _
  | node => simp
  | edge parent key child => exact Nat.le_of_eq (grammar.size_link parent key child).symm

theorem size_le_of_grows (hgrows : Relation.ReflTransGen Grows grammar other) :
    grammar.nodes.size ≤ other.nodes.size := by
  induction hgrows with
  | refl => exact Nat.le_refl _
  | tail _ hstep ih => exact Nat.le_trans ih hstep.size_le

/-- A handle that is nowhere or names a stored node. -/
def Known (grammar : Grammar R) (node : NodeRef) : Prop :=
  node = .notFound ∨ ∃ index, index < grammar.nodes.size ∧ node = .stored index

theorem WellFormed.lookup_known (hwf : grammar.WellFormed) (node : NodeRef) (token : String) :
    grammar.Known (grammar.lookup node token) := by
  cases hlookup : grammar.lookup node token with
  | notFound => exact .inl rfl
  | stored target =>
      cases node with
      | notFound => simp at hlookup
      | stored source =>
          exact .inr ⟨target, hwf.children_stored source target (hwf.edge_of_lookup hlookup), rfl⟩

end Grammar

/-- The event of a token that no store takes. -/
def Event.isDrop : Event → Bool
  | .droppedCapture _ => true
  | _ => false

/-- The trace reports no dropped token. -/
def Trace.DropsNothing (trace : Trace) : Prop := ∀ event ∈ trace, event.isDrop = false

namespace Trace.DropsNothing

theorem nil : DropsNothing [] := by simp [DropsNothing]

theorem cons {event : Event} {trace : Trace} (hevent : event.isDrop = false)
    (htrace : trace.DropsNothing) : DropsNothing (event :: trace) :=
  List.forall_mem_cons.mpr ⟨hevent, htrace⟩

theorem append {first second : Trace} (hfirst : first.DropsNothing)
    (hsecond : second.DropsNothing) : DropsNothing (first ++ second) :=
  List.forall_mem_append.mpr ⟨hfirst, hsecond⟩

theorem singleton {event : Event} (hevent : event.isDrop = false) : DropsNothing [event] :=
  nil.cons hevent

end Trace.DropsNothing

namespace Grammar

variable {grammar : Grammar R}

/-! ## Construction drops nothing -/

theorem link_dropsNothing (grammar : Grammar R) (parent : Nat) (key : String) (child : Nat) :
    (grammar.link parent key child).2.DropsNothing := by
  unfold link
  split
  · exact .nil
  next parentNode _ =>
    dsimp only
    split
    · split
      · exact .nil
      · exact .singleton rfl
    · exact .nil

theorem linkAll_dropsNothing (grammar : Grammar R) (parent : Nat)
    (children : List (String × Nat)) : (grammar.linkAll parent children).2.DropsNothing := by
  induction children generalizing grammar with
  | nil => exact .nil
  | cons entry rest ih => exact (grammar.link_dropsNothing parent _ _).append (ih _)

theorem build_dropsNothing {spec : NodeSpec R} {change : Change R NodeRef}
    (hbuild : grammar.build spec = .ok change) : change.trace.DropsNothing := by
  obtain ⟨_, _, _, _, _, rfl⟩ := build_eq_ok hbuild
  exact (linkAll_dropsNothing _ _ _).append (.singleton rfl)

theorem attach_dropsNothing {parent child : NodeRef} {change : Change R Unit}
    (hattach : grammar.attach parent child = .ok change) : change.trace.DropsNothing := by
  obtain ⟨_, rfl⟩ | ⟨_, _, _, _, _, _, _, rfl⟩ := attach_eq_ok hattach
  · exact .nil
  · exact grammar.link_dropsNothing _ _ _

theorem attachMany_dropsNothing {parent : NodeRef} {children : List (String × NodeRef)}
    {change : Change R Unit} (hattach : grammar.attachMany parent children = .ok change) :
    change.trace.DropsNothing := by
  obtain ⟨_, rfl⟩ | ⟨_, _, _, _, _, _, _, _, rfl⟩ := attachMany_eq_ok hattach
  · exact .nil
  · exact grammar.linkAll_dropsNothing _ _

/-! ## Stepping drops nothing -/

/-- A step records in a store that takes the token. -/
theorem StoresAnswer.advance_dropsNothing (hanswer : grammar.StoresAnswer) (node : NodeRef)
    (token : String) : (grammar.advance node token).trace.DropsNothing := by
  rcases grammar.advance_cases node token with ⟨_, hstep⟩ | ⟨_, _, _, _, _, hstep⟩ |
    ⟨_, found, own, hlookup, hnode, _, hstore, hstep⟩
  · rw [hstep]
    exact .nil
  · rw [hstep]
    exact .nil
  · rw [hstep]
    refine .cons rfl ?_
    cases node with
    | notFound => simp at hlookup
    | stored index =>
        have hown : grammar.storeAt index = some own := by
          rw [storeAt, show grammar.nodes[index]? = some found from hnode, Option.bind_some, hstore]
        obtain ⟨root, hroot⟩ := hanswer index own hown
        rw [StoreTable.push, hroot]
        exact .nil

theorem StoresAnswer.passing_dropsNothing (hanswer : grammar.StoresAnswer) (node : NodeRef)
    (position : Nat) (token : String) (tokens : List String) :
    (grammar.passing node position token tokens).DropsNothing := by
  induction tokens generalizing grammar node position token with
  | nil => exact .nil
  | cons next rest ih =>
      have hsame := grammar.advance_sameStructure node next
      have hdeferred : Trace.DropsNothing (if grammar.isExecutable node
          then [.deferredExecution position token] else []) := by
        split
        · exact .singleton rfl
        · exact .nil
      exact (hdeferred.append (hanswer.advance_dropsNothing node next)).append
        (ih (hanswer.of_sameStructure hsame) _ _ _)

theorem StoresAnswer.walk_dropsNothing (hanswer : grammar.StoresAnswer) (node : NodeRef)
    (position : Nat) (token : String) (rest : List String) :
    (grammar.walk node position token rest).trace.DropsNothing := by
  rw [trace_walk]
  refine (hanswer.passing_dropsNothing node position token _).append ?_
  rcases grammar.stopping_cases (grammar.settled node rest).value
    (position + grammar.progress node rest)
    ((rest.take (grammar.progress node rest)).getLastD token)
    (rest.drop (grammar.progress node rest)) with
    ⟨_, hstop⟩ | ⟨_, hstop | ⟨_, _, hstop⟩⟩ <;> rw [hstop]
  · exact .singleton rfl
  · exact .nil
  · exact .singleton rfl

end Grammar

theorem Select.buildAll_dropsNothing (grammar : Grammar R) (specs : List (NodeSpec R)) :
    (buildAll grammar specs).trace.DropsNothing := by
  induction specs generalizing grammar with
  | nil => exact .nil
  | cons spec rest ih =>
      unfold buildAll
      cases hbuild : grammar.build spec with
      | error fault => exact .nil
      | ok built => exact (Grammar.build_dropsNothing hbuild).append (ih built.grammar)

theorem Select.install_dropsNothing (grammar : Grammar R) (store : StoreRef)
    (callbacks : List (Callback R)) : (install grammar store callbacks).trace.DropsNothing := by
  have hignored : Trace.DropsNothing (if callbackCount < callbacks.length then
      [Event.ignoredCallbacks callbacks.length] else []) := by
    split
    · exact .singleton rfl
    · exact .nil
  unfold install
  cases Callbacks.ofList? callbacks with
  | none => exact hignored
  | some callbacks => exact hignored.append (buildAll_dropsNothing grammar _)

namespace Dispatcher

variable {dispatcher : Dispatcher R}

theorem runTokens_dropsNothing (hanswer : dispatcher.grammar.StoresAnswer)
    (tokens : List String) : (dispatcher.runTokens tokens).trace.DropsNothing := by
  cases tokens with
  | nil => exact .nil
  | cons first rest =>
      have hwalk := hanswer.walk_dropsNothing (dispatcher.entry first) 0 first rest
      unfold runTokens
      dsimp only
      split
      · exact hwalk
      · exact hwalk.append (.singleton rfl)

theorem performChange_dropsNothing {α : Type} (respond : α → Response R)
    (result : Except Error (Change R α))
    (hresult : ∀ change, result = .ok change → change.trace.DropsNothing) :
    (dispatcher.performChange respond result).trace.DropsNothing := by
  cases result with
  | error error => exact .nil
  | ok change => exact hresult change rfl

theorem performEntry_registerAs_dropsNothing (name : String) (root : NodeRef) :
    (dispatcher.performEntry (dispatcher.registerAs name root)).trace.DropsNothing := by
  unfold registerAs
  split
  · exact .nil
  · exact .singleton rfl

theorem perform_dropsNothing (hanswer : dispatcher.grammar.StoresAnswer)
    (operation : Operation R) : (dispatcher.perform operation).trace.DropsNothing := by
  cases operation with
  | createStore => exact .nil
  | build spec => exact performChange_dropsNothing _ _ fun _ => Grammar.build_dropsNothing
  | attach parent child =>
      exact performChange_dropsNothing _ _ fun _ => Grammar.attach_dropsNothing
  | attachMany parent children =>
      exact performChange_dropsNothing _ _ fun _ => Grammar.attachMany_dropsNothing
  | installSelect store callbacks => exact Select.install_dropsNothing _ store callbacks
  | advance node token => exact hanswer.advance_dropsNothing node token
  | clearFrom root => exact .nil
  | clearAll => exact .nil
  | register root =>
      rw [perform, register]
      split
      · exact .nil
      · exact performEntry_registerAs_dropsNothing _ root
  | registerAs name root => exact performEntry_registerAs_dropsNothing name root
  | run command => exact .cons rfl (runTokens_dropsNothing hanswer _)
  | runTokens tokens => exact runTokens_dropsNothing hanswer tokens
  | setTokenizer strategy source =>
      rw [perform]
      cases (Tokenizer.make .empty strategy source).1 <;> exact .nil

/-! ## Entries -/

/-- Every entry is a stored node. -/
def EntriesStored (dispatcher : Dispatcher R) : Prop :=
  ∀ (name : String) (index : Nat), dispatcher.entries[name]? = some index →
    index < dispatcher.grammar.nodes.size

theorem EntriesStored.registerAs (hentries : dispatcher.EntriesStored) (name : String)
    (root : NodeRef) :
    (dispatcher.performEntry (dispatcher.registerAs name root)).dispatcher.EntriesStored := by
  unfold Dispatcher.registerAs
  cases hplace : dispatcher.grammar.place? root with
  | none => exact hentries
  | some place =>
      have hplaces : dispatcher.grammar.places [root] = .ok [place] := by
        simp [Grammar.places, hplace, Except.map]
      have hbound := Grammar.places_lt hplaces place (List.mem_singleton_self _)
      intro other index hother
      simp only [performEntry, Std.ExtTreeMap.getElem?_insert, Std.compare_eq_iff_eq] at hother
      split at hother
      · obtain rfl : place = index := by simpa using hother
        exact hbound
      · exact hentries other index hother

/-- Operations other than registration leave the entries alone. -/
theorem entries_perform (dispatcher : Dispatcher R) {operation : Operation R}
    (hkind : operation.recordsOrClears = false)
    (hregister : ∀ root, operation ≠ .register root)
    (hregisterAs : ∀ name root, operation ≠ .registerAs name root) :
    (dispatcher.perform operation).dispatcher.entries = dispatcher.entries := by
  have hchange : ∀ {α : Type} (respond : α → Response R) (result : Except Error (Change R α)),
      (dispatcher.performChange respond result).dispatcher.entries = dispatcher.entries := by
    intro α respond result
    cases result <;> rfl
  cases operation with
  | createStore => rfl
  | build spec => exact hchange _ _
  | attach parent child => exact hchange _ _
  | attachMany parent children => exact hchange _ _
  | installSelect store callbacks => rfl
  | register root => exact absurd rfl (hregister root)
  | registerAs name root => exact absurd rfl (hregisterAs name root)
  | setTokenizer strategy source => rw [perform, entries_performTokenizer]
  | _ => simp [Operation.recordsOrClears] at hkind

theorem EntriesStored.perform (hentries : dispatcher.EntriesStored) (operation : Operation R) :
    (dispatcher.perform operation).dispatcher.EntriesStored := by
  cases hkind : operation.recordsOrClears with
  | true =>
      have hsame := dispatcher.perform_sameStructure hkind
      intro name index hname
      rw [hsame.entries_eq] at hname
      rw [hsame.grammar.nodes_eq]
      exact hentries name index hname
  | false =>
      have hsize := Grammar.size_le_of_grows (dispatcher.perform_grows hkind)
      cases operation with
      | register root =>
          rw [Dispatcher.perform, register]
          split
          · exact hentries
          · exact hentries.registerAs _ root
      | registerAs name root => exact hentries.registerAs name root
      | _ =>
          intro name index hname
          rw [dispatcher.entries_perform hkind (by simp) (by simp)] at hname
          exact Nat.lt_of_lt_of_le (hentries name index hname) hsize

theorem Reachable.entriesStored (hreach : dispatcher.Reachable) : dispatcher.EntriesStored := by
  induction hreach with
  | start tokenizer =>
      intro name index hname
      simp at hname
  | step operation _ ih => exact ih.perform operation

theorem Reachable.grounded (hreach : dispatcher.Reachable) :
    dispatcher.grammar.stores.Grounded :=
  hreach.invariant (P := fun grammar => grammar.stores.Grounded) .empty
    (fun _ _ hgrounded hgrows => hgrows.grounded hgrounded)
    (fun _ _ hgrounded hsame => hgrounded.of_sameShape hsame.stores)

theorem Reachable.storesAnswer (hreach : dispatcher.Reachable) :
    dispatcher.grammar.StoresAnswer :=
  hreach.wellFormed.storesAnswer hreach.grounded

/-- In every reachable dispatcher the children of a node are stored nodes, its wildcard child is
its child under the wildcard key, its store exists, and every entry is a stored node. Therefore
no operation, whatever it is given, indexes a table at a place that is not there; a step, whether
it records or not, ends on a stored node or nowhere; and no token is ever dropped because its store
is unknown. -/
theorem Reachable.referential_integrity (hreach : dispatcher.Reachable) :
    (∀ (index : Nat) (node : Node R), dispatcher.grammar.nodes[index]? = some node →
      (∀ key child, node.child? key = some child → child < dispatcher.grammar.nodes.size) ∧
        node.wildcardChild = node.child? wildcard ∧
        ∀ own, node.store = some own → dispatcher.grammar.stores.contains own = true) ∧
    (∀ (name : String) (index : Nat), dispatcher.entries[name]? = some index →
      index < dispatcher.grammar.nodes.size) ∧
    (∀ operation, dispatcher.performIndexed operation = some (dispatcher.perform operation)) ∧
    (∀ node token, dispatcher.grammar.Known (dispatcher.grammar.lookup node token) ∧
      dispatcher.grammar.Known (dispatcher.grammar.advance node token).value) ∧
    ∀ operation, (dispatcher.perform operation).trace.DropsNothing := by
  have hwf := hreach.wellFormed
  refine ⟨?_, hreach.entriesStored, dispatcher.performIndexed_eq, ?_,
    perform_dropsNothing hreach.storesAnswer⟩
  · intro index node hnode
    refine ⟨?_, hwf.mirrored index node hnode, ?_⟩
    · intro key child hchild
      exact hwf.children_stored index child ⟨node, key, hnode, hchild⟩
    · intro own hown
      exact hwf.stores_known index own (by rw [Grammar.storeAt, hnode, Option.bind_some, hown])
  · intro node token
    rw [Grammar.value_advance]
    exact ⟨hwf.lookup_known node token, hwf.lookup_known node token⟩

/-- In the dispatcher for commands such as `use alice show`, the wildcard child of `use` is a
stored node, the entry `use` is one, and stepping from it with `bob` drops nothing. -/
theorem referential_integrity_use :
    nameShower.Reachable ∧
      (∀ child, (nameShower.grammar.nodes[2]?.bind (·.child? wildcard)) = some child →
        child < nameShower.grammar.nodes.size) ∧
      nameShower.entries["use"]? = some 2 ∧ 2 < nameShower.grammar.nodes.size ∧
      (nameShower.perform (.advance (.stored 2) "bob")).trace.DropsNothing := by
  obtain ⟨hnodes, hentries, _, _, htraces⟩ := nameShower_reachable.referential_integrity
  have hentry : nameShower.entries["use"]? = some 2 := by decide
  refine ⟨nameShower_reachable, ?_, hentry, hentries "use" 2 hentry, htraces _⟩
  intro child hchild
  obtain ⟨node, hnode, hchild⟩ := Option.bind_eq_some_iff.mp hchild
  exact (hnodes 2 node hnode).1 wildcard child hchild

end Dispatcher

end CommandGrammar
