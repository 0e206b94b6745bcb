import CommandGrammar.Proofs.Select.Sessions
import CommandGrammar.Proofs.Session.Refusal

/-! # When the template is refused

The template is refused with too few callbacks and with a store that does not exist. The callbacks
are counted before anything is built. The store is not looked up until a node that captures into it
is built, and by then the slot of the range is in the grammar, where it stays.
-/

namespace CommandGrammar

variable {R : Type}

namespace Grammar

variable {grammar : Grammar R} {store : StoreRef} {base offset : Nat} {spec : NodeSpec R}

/-- A build adds one node and forgets no store. -/
theorem build_keeps {change : Change R NodeRef} (hbuild : grammar.build spec = .ok change) :
    change.grammar.nodes.size = grammar.nodes.size + 1 ∧
      (grammar.stores.contains store = true → change.grammar.stores.contains store = true) := by
  refine ⟨?_, contains_of_steps (build_draws hbuild).grows⟩
  obtain ⟨children, own, stores, -, -, rfl⟩ := build_eq_ok hbuild
  rw [linkNamed, nodes_linkAll, Array.size_modify, Array.size_push]

/-- Behind the row that it looks back on, a description is built if its store exists. -/
theorem exists_build_of_looksBack (hlooks : spec.LooksBack store base offset)
    (hsize : grammar.nodes.size = base + offset) (hstore : grammar.stores.contains store = true) :
    ∃ change, grammar.build spec = .ok change := by
  obtain ⟨htarget, offsets, hchildren, hearlier⟩ := hlooks
  have hplaces : grammar.places spec.children = .ok (offsets.map (base + ·)) := by
    rw [hchildren]
    apply places_of_lt
    intro earlier hmem
    rw [hsize]
    exact Nat.add_lt_add_left (hearlier earlier hmem) base
  cases hbuild : grammar.build spec with
  | ok change => exact ⟨change, rfl⟩
  | error error =>
      exfalso
      cases build_eq_error_iff.mp hbuild with
      | buildChild hchild =>
          rw [places_eq, hchild] at hplaces
          cases hplaces
      | @buildStore _ other _ hinto hunknown =>
          rcases htarget with htarget | htarget
          · rw [htarget] at hinto
            cases hinto
          · obtain rfl : store = other := CaptureTarget.into.inj (htarget.symm.trans hinto)
            rw [hstore] at hunknown
            cases hunknown

end Grammar

namespace Select

open Grammar (exists_build_of_looksBack build_keeps build_eq_error_iff)

variable {grammar : Grammar R} {store : StoreRef} {base offset : Nat}

/-- A row of descriptions that look back is built without fail if its store exists, whatever the
stores are redirected to. -/
theorem value_buildAll_of_looksBack {row : List (NodeSpec R)}
    (hsize : grammar.nodes.size = base + offset) (hstore : grammar.stores.contains store = true)
    (hrow : ∀ (index : Nat) (spec : NodeSpec R), row[index]? = some spec →
      spec.LooksBack store base (offset + index)) :
    (buildAll grammar row).value = .ok () := by
  induction row generalizing grammar offset with
  | nil => rfl
  | cons spec rest ih =>
      obtain ⟨built, hbuild⟩ := exists_build_of_looksBack (hrow 0 spec rfl) hsize hstore
      obtain ⟨hgrown, hkept⟩ := build_keeps hbuild
      have hbehind : built.grammar.nodes.size = base + (offset + 1) := by
        rw [hgrown, hsize, Nat.add_assoc]
      simp only [buildAll, hbuild]
      refine ih hbehind (hkept hstore) fun index other hother => ?_
      rw [Nat.add_assoc, Nat.add_comm 1 index]
      exact hrow (index + 1) other hother

/-- Without its store, the template gets no further than to its first node. -/
theorem buildAll_specs_of_unknownStore (known : Callbacks R)
    (hstore : grammar.stores.contains store = false) :
    ∃ range trace, (specs store known grammar.size).head? = some range ∧
      buildAll grammar (specs store known grammar.size) =
        ⟨.error (.unknownStore store), grammar.append (range.bare none), trace⟩ := by
  have hlength : (specs store known grammar.size).length = 12 := rfl
  let range := (specs store known grammar.size)[0]
  let limit := (specs store known grammar.size)[1]
  -- The first node has neither children nor a store, so nothing can refuse it.
  obtain ⟨trace, hrange⟩ : ∃ trace, grammar.build range =
      .ok ⟨.stored grammar.size, grammar.append (range.bare none), trace⟩ := ⟨_, rfl⟩
  have hchildren : limit.children = [.stored grammar.size] := rfl
  have hknown : (grammar.append (range.bare none)).firstUnknown? limit.children = none := by
    simp [hchildren, Grammar.firstUnknown?, Grammar.node?, Grammar.append, Grammar.size]
  have hlimit : (grammar.append (range.bare none)).build limit = .error (.unknownStore store) :=
    build_eq_error_iff.mpr (.buildStore hknown rfl hstore)
  have hrow : specs store known grammar.size =
      range :: limit :: (specs store known grammar.size).drop 2 := rfl
  refine ⟨range, trace ++ [], rfl, ?_⟩
  rw [hrow]
  simp only [buildAll, hrange, hlimit]

/-! ## The template -/

/-- Why the template is refused. The callbacks are counted first. -/
inductive Refuses (grammar : Grammar R) (store : StoreRef) (callbacks : List (Callback R)) :
    Error → Prop where
  | missingCallback : callbacks.length < callbackCount →
      Refuses grammar store callbacks (.missingCallback callbackCount callbacks.length)
  | unknownStore : callbackCount ≤ callbacks.length → grammar.stores.contains store = false →
      Refuses grammar store callbacks (.unknownStore store)

variable {callbacks : List (Callback R)}

theorem Callbacks.ofList?_eq_none_iff :
    Callbacks.ofList? callbacks = none ↔ callbacks.length < callbackCount := by
  constructor
  · intro hnone
    by_contra henough
    obtain ⟨known, hknown, _⟩ := Callbacks.exists_ofList? (Nat.le_of_not_lt henough)
    rw [hnone] at hknown
    cases hknown
  · intro hfew
    cases hknown : Callbacks.ofList? callbacks with
    | none => rfl
    | some known =>
        unfold Callbacks.ofList? at hknown
        split at hknown
        · simp [callbackCount] at hfew
          omega
        · cases hknown

theorem install_of_few (hfew : callbacks.length < callbackCount) :
    (install grammar store callbacks).value =
        .error (.missingCallback callbackCount callbacks.length) ∧
      (install grammar store callbacks).grammar = grammar := by
  simp only [install, Callbacks.ofList?_eq_none_iff.mpr hfew, and_self]

theorem install_of_unknownStore (henough : callbackCount ≤ callbacks.length)
    (hstore : grammar.stores.contains store = false) :
    (install grammar store callbacks).value = .error (.unknownStore store) ∧
      ∃ known range, Callbacks.ofList? callbacks = some known ∧
        (specs store known grammar.size).head? = some range ∧
        (install grammar store callbacks).grammar = grammar.append (range.bare none) := by
  obtain ⟨known, hknown, _⟩ := Callbacks.exists_ofList? henough
  obtain ⟨range, trace, hrange, hbuilt⟩ := buildAll_specs_of_unknownStore known hstore
  simp only [install, hknown, hbuilt]
  exact ⟨rfl, known, range, rfl, hrange, rfl⟩

theorem install_of_enough (henough : callbackCount ≤ callbacks.length)
    (hstore : grammar.stores.contains store = true) :
    (install grammar store callbacks).value = .ok (.stored (grammar.size + rootOffset)) := by
  obtain ⟨known, hknown, _⟩ := Callbacks.exists_ofList? henough
  have hsize : grammar.nodes.size = grammar.size + 0 := rfl
  have hvalue : (buildAll grammar (specs store known grammar.size)).value = .ok () := by
    refine value_buildAll_of_looksBack hsize hstore fun index spec hspec => ?_
    rw [Nat.zero_add]
    exact specs_looksBack store known grammar.size index spec hspec
  simp only [install, hknown, hvalue]
  rfl

theorem install_value_eq_error_iff {error : Error} :
    (install grammar store callbacks).value = .error error ↔
      Refuses grammar store callbacks error := by
  rcases Nat.lt_or_ge callbacks.length callbackCount with hfew | henough
  · rw [(install_of_few hfew).1]
    constructor
    · rintro ⟨⟩
      exact .missingCallback hfew
    · rintro (_ | henough)
      · rfl
      · exact absurd henough (Nat.not_le_of_lt hfew)
  cases hstore : grammar.stores.contains store with
  | false =>
      rw [(install_of_unknownStore henough hstore).1]
      constructor
      · rintro ⟨⟩
        exact .unknownStore henough hstore
      · rintro (hfew | _)
        · exact absurd hfew (Nat.not_lt_of_le henough)
        · rfl
  | true =>
      rw [install_of_enough henough hstore]
      constructor
      · rintro ⟨⟩
      · rintro (hfew | ⟨_, hunknown⟩)
        · exact absurd hfew (Nat.not_lt_of_le henough)
        · rw [hstore] at hunknown
          cases hunknown

/-- Whatever the grammar, the store and the callbacks, the template is refused exactly for too few
callbacks or for a store that does not exist. Refused for its callbacks, it leaves the grammar as it
was. Refused for its store, it leaves the slot of the range behind, and nothing else is changed. -/
theorem install_refused (grammar : Grammar R) (store : StoreRef) (callbacks : List (Callback R)) :
    let installed := install grammar store callbacks
    (∀ error, installed.value = .error error ↔ Refuses grammar store callbacks error) ∧
    ∀ error, installed.value = .error error →
      (installed.grammar = grammar ↔ callbacks.length < callbackCount) ∧
      (callbackCount ≤ callbacks.length →
        ∃ known range, Callbacks.ofList? callbacks = some known ∧
          (specs store known grammar.size).head? = some range ∧
          installed.grammar = grammar.append (range.bare none)) := by
  refine ⟨fun error => install_value_eq_error_iff, fun error hrefused => ?_⟩
  cases install_value_eq_error_iff.mp hrefused with
  | missingCallback hfew =>
      have hsame : (install grammar store callbacks).grammar = grammar := (install_of_few hfew).2
      exact ⟨iff_of_true hsame hfew, fun henough => absurd henough (Nat.not_le_of_lt hfew)⟩
  | unknownStore henough hstore =>
      obtain ⟨_, known, range, hknown, hrange, hleft⟩ := install_of_unknownStore henough hstore
      refine ⟨iff_of_false (fun hsame => ?_) (Nat.not_lt_of_le henough),
        fun _ => ⟨known, range, hknown, hrange, hleft⟩⟩
      have hsize := congrArg Grammar.size (hsame.symm.trans hleft)
      simp [Grammar.size, Grammar.append] at hsize

/-- In an empty grammar no store exists. The template is refused, and its first node stays. -/
theorem install_refused_empty :
    let before : Grammar (String × List String) := .empty
    let installed := install before ⟨0⟩ Dispatcher.labelled
    installed.value = .error (.unknownStore ⟨0⟩) ∧
      callbackCount ≤ Dispatcher.labelled.length ∧
      ∃ known range, Callbacks.ofList? Dispatcher.labelled = some known ∧
        (specs ⟨0⟩ known before.size).head? = some range ∧
        installed.grammar = before.append (range.bare none) := by
  intro before installed
  have hrefused : installed.value = .error (.unknownStore ⟨0⟩) := rfl
  have henough : callbackCount ≤ Dispatcher.labelled.length := by decide
  obtain ⟨-, hleft⟩ := install_refused before ⟨0⟩ Dispatcher.labelled
  exact ⟨hrefused, henough, (hleft _ hrefused).2 henough⟩

/-- The refused template has added a node to the empty grammar. -/
theorem install_leaves_node :
    let before : Grammar (String × List String) := .empty
    let installed := install before ⟨0⟩ Dispatcher.labelled
    installed.value = .error (.unknownStore ⟨0⟩) ∧ before.size = 0 ∧ installed.grammar.size = 1 :=
  ⟨rfl, rfl, rfl⟩

end Select

end CommandGrammar
