import CommandGrammar.Proofs.Dispatch.Frame
import CommandGrammar.Proofs.Grammar.Traversal

/-! # What clearing empties

Clearing from a handle empties the stores that nodes below it capture into and no others, in
whatever order the children of each node come. Clearing from all entries does the same for what lies
below any of them, in whatever order the entries come. A grammar is determined by its nodes, by the
redirections of its stores and by what these read, so every order leaves the same grammar.
-/

namespace CommandGrammar

variable {R : Type}

namespace Grammar

/-- Two grammars that differ at most in the stores captured into below some handles: these are empty
in the second, and every other store reads the same in both. Nodes and redirections are kept. -/
structure EmptiedBelow (before after : Grammar R) (roots : List NodeRef) : Prop where
  sameStructure : after.SameStructure before
  resolve_eq : ∀ store, after.stores.resolve store = before.stores.resolve store
  emptied : ∀ store, (∃ root ∈ roots, before.CapturesBelow root store) → after.captured store = []
  kept : ∀ store, (¬ ∃ root ∈ roots, before.CapturesBelow root store) →
    after.captured store = before.captured store

variable {grammar before middle after other : Grammar R} {roots others : List NodeRef}

theorem EmptiedBelow.refl (grammar : Grammar R) : grammar.EmptiedBelow grammar [] where
  sameStructure := .refl grammar
  resolve_eq := fun _ => rfl
  emptied := fun store hbelow => by simp at hbelow
  kept := fun _ _ => rfl

theorem emptiedBelow_clearCaptures (grammar : Grammar R) (root : NodeRef) :
    grammar.EmptiedBelow (grammar.clearCaptures root) [root] where
  sameStructure := grammar.clearCaptures_sameStructure root
  resolve_eq := (grammar.clearCaptures_sameStructure root).stores.resolve_eq
  emptied := fun store hbelow => captured_clearCaptures_of_below (by simpa using hbelow)
  kept := fun store hbelow => captured_clearCaptures_of_not_below (by simpa using hbelow)

theorem EmptiedBelow.trans (hfirst : before.EmptiedBelow middle roots)
    (hsecond : middle.EmptiedBelow after others) :
    before.EmptiedBelow after (roots ++ others) := by
  -- What lies below a handle is a matter of the structure, which the first clearing kept.
  have hbelow : ∀ store, (∃ root ∈ others, middle.CapturesBelow root store) ↔
      ∃ root ∈ others, before.CapturesBelow root store := fun store => by
    simp only [hfirst.sameStructure.capturesBelow_iff]
  refine ⟨hsecond.sameStructure.trans hfirst.sameStructure,
    fun store => (hsecond.resolve_eq store).trans (hfirst.resolve_eq store), ?_, ?_⟩
  · intro store hstore
    by_cases hother : ∃ root ∈ others, before.CapturesBelow root store
    · exact hsecond.emptied store ((hbelow store).mpr hother)
    · rw [hsecond.kept store (mt (hbelow store).mp hother)]
      obtain ⟨root, hroot, hcaptures⟩ := hstore
      rcases List.mem_append.mp hroot with hroot | hroot
      · exact hfirst.emptied store ⟨root, hroot, hcaptures⟩
      · exact absurd ⟨root, hroot, hcaptures⟩ hother
  · intro store hstore
    have hothers : ¬ ∃ root ∈ others, before.CapturesBelow root store := by
      rintro ⟨root, hroot, hcaptures⟩
      exact hstore ⟨root, List.mem_append_right _ hroot, hcaptures⟩
    have hroots : ¬ ∃ root ∈ roots, before.CapturesBelow root store := by
      rintro ⟨root, hroot, hcaptures⟩
      exact hstore ⟨root, List.mem_append_left _ hroot, hcaptures⟩
    rw [hsecond.kept store (mt (hbelow store).mp hothers), hfirst.kept store hroots]

theorem emptiedBelow_foldl_clearCaptures (grammar : Grammar R) (roots : List NodeRef) :
    grammar.EmptiedBelow (roots.foldl clearCaptures grammar) roots := by
  induction roots generalizing grammar with
  | nil => exact .refl grammar
  | cons root rest ih => exact (grammar.emptiedBelow_clearCaptures root).trans (ih _)

/-- Two grammars of one structure whose stores read the same are the same grammar. -/
theorem SameStructure.eq_of_captured (hsame : after.SameStructure other)
    (hcaptured : ∀ store, after.captured store = other.captured store) : after = other := by
  have hnodes := hsame.nodes_eq
  have hstores : after.stores = other.stores := hsame.stores.eq_of_values hcaptured
  cases after
  cases other
  exact congrArg₂ Grammar.mk hnodes hstores

/-- What is left does not depend on the order in which the handles were cleared from. -/
theorem EmptiedBelow.unique (hafter : before.EmptiedBelow after roots)
    (hother : before.EmptiedBelow other others) (hroots : ∀ root, root ∈ roots ↔ root ∈ others) :
    after = other := by
  have hstructure : after.SameStructure other :=
    ⟨hafter.sameStructure.nodes_eq.trans hother.sameStructure.nodes_eq.symm,
      hafter.sameStructure.stores.trans hother.sameStructure.stores.symm⟩
  refine hstructure.eq_of_captured fun store => ?_
  by_cases hbelow : ∃ root ∈ roots, before.CapturesBelow root store
  · have hsame : ∃ root ∈ others, before.CapturesBelow root store := by
      simpa only [hroots] using hbelow
    rw [hafter.emptied store hbelow, hother.emptied store hsame]
  · have hsame : ¬ ∃ root ∈ others, before.CapturesBelow root store := by
      simpa only [hroots] using hbelow
    rw [hafter.kept store hbelow, hother.kept store hsame]

/-! ## In whatever order the children come -/

theorem clearAt_congr {places visited : List Nat}
    (hplaces : ∀ index, index ∈ visited ∧ index < grammar.nodes.size ↔ index ∈ places) :
    grammar.clearAt visited = grammar.clearAt places := by
  have hstores : (grammar.clearAt visited).stores = (grammar.clearAt places).stores := by
    rw [stores_clearAt, stores_clearAt]
    refine grammar.stores.foldl_clear_congr fun store => ?_
    simp only [List.mem_filterMap]
    constructor
    · rintro ⟨index, hindex, hown⟩
      exact ⟨index, (hplaces index).mp ⟨hindex, storeAt_lt hown⟩, hown⟩
    · rintro ⟨index, hindex, hown⟩
      exact ⟨index, ((hplaces index).mpr hindex).1, hown⟩
  exact congrArg (Grammar.mk grammar.nodes) hstores

/-- A traversal that clears the store of every node when it comes to it stops and leaves the cleared
grammar, in whatever order it comes to the children. -/
theorem traverses_clearCaptures (grammar : Grammar R) (root : NodeRef) :
    grammar.Traverses Node.AnyOrder [root] fun visited =>
      grammar.clearAt (knownPlaces visited.reverse) = grammar.clearCaptures root := by
  refine (grammar.traverses_anyOrder [root]).imp fun visited hvisited => clearAt_congr fun index => ?_
  rw [← hvisited index, mem_knownPlaces_iff, mem_knownPlaces_iff, List.mem_reverse]

end Grammar

namespace Dispatcher

/-- The nodes that are registered as entries, in the order of their names. -/
def entryNodes (dispatcher : Dispatcher R) : List NodeRef :=
  dispatcher.entries.toList.map fun entry => .stored entry.2

theorem clearCaptures_eq_foldl (dispatcher : Dispatcher R) :
    dispatcher.clearCaptures = { dispatcher with
      grammar := dispatcher.entryNodes.foldl Grammar.clearCaptures dispatcher.grammar } := by
  rw [clearCaptures, entryNodes, List.foldl_map, List.foldl_map]

/-- Clearing from a handle, known or not, stops in whatever order children come. It empties exactly
the logical stores that a node below the handle captures into and keeps the nodes, the redirections
and what all other stores read. Clearing everything does so for what lies below any entry, in
whatever order the entries are taken. -/
theorem clearCaptures_empties_below (dispatcher : Dispatcher R) :
    (∀ root,
      dispatcher.grammar.EmptiedBelow (dispatcher.grammar.clearCaptures root) [root] ∧
        dispatcher.grammar.Traverses Node.AnyOrder [root] fun visited =>
          dispatcher.grammar.clearAt (Grammar.knownPlaces visited.reverse) =
            dispatcher.grammar.clearCaptures root) ∧
      ∀ order : List NodeRef, order.Perm dispatcher.entryNodes →
        dispatcher.grammar.EmptiedBelow dispatcher.clearCaptures.grammar order ∧
          dispatcher.clearCaptures = { dispatcher with
            grammar := order.foldl Grammar.clearCaptures dispatcher.grammar } := by
  refine ⟨fun root => ⟨dispatcher.grammar.emptiedBelow_clearCaptures root,
    dispatcher.grammar.traverses_clearCaptures root⟩, fun order hperm => ?_⟩
  have hinOrder := dispatcher.grammar.emptiedBelow_foldl_clearCaptures order
  have hbyName := dispatcher.grammar.emptiedBelow_foldl_clearCaptures dispatcher.entryNodes
  rw [clearCaptures_eq_foldl, hbyName.unique hinOrder fun _ => hperm.mem_iff.symm]
  exact ⟨hinOrder, rfl⟩

/-- The entry `loop` and its wildcard child lead to each other and capture into one store, and the
entry `note` captures into the store of its wildcard child. The node `apart` is no entry. Each of the
three has captured a token. -/
def roundabout : Dispatcher Unit :=
  Dispatcher.afterAll { tokenizer := .delimiter " " }
    [.createStore,
      .build { NodeSpec.capturing "loop" with target := .into ⟨0⟩ },
      .build { NodeSpec.capturing wildcard with target := .into ⟨0⟩, children := [.stored 0] },
      .attach (.stored 0) (.stored 1),
      .build (NodeSpec.capturing wildcard),
      .build { NodeSpec.capturing "note" with children := [.stored 2] },
      .build (NodeSpec.capturing wildcard),
      .build { NodeSpec.capturing "apart" with children := [.stored 4] },
      .register (.stored 0),
      .register (.stored 3),
      .advance (.stored 0) "round",
      .advance (.stored 3) "milk",
      .advance (.stored 5) "kept"]

theorem roundabout_reachable : roundabout.Reachable := (Reachable.start _).afterAll _

/-- Clearing from `loop` alone leaves `milk`, clearing everything does not, although the entries are
taken in the other order, and neither comes to `kept`. -/
theorem clearCaptures_empties_below_roundabout :
    roundabout.Reachable ∧ [.stored 3, .stored 0].Perm roundabout.entryNodes ∧
      [0, 1, 3].map (fun index => roundabout.grammar.captured ⟨index⟩) =
        [["round"], ["milk"], ["kept"]] ∧
      (roundabout.grammar.clearCaptures (.stored 0)).captured ⟨0⟩ = [] ∧
      (roundabout.grammar.clearCaptures (.stored 0)).captured ⟨1⟩ = ["milk"] ∧
      roundabout.clearCaptures.grammar.captured ⟨1⟩ = [] ∧
      roundabout.clearCaptures.grammar.captured ⟨3⟩ = ["kept"] := by
  obtain ⟨hone, hall⟩ := roundabout.clearCaptures_empties_below
  have hentries : roundabout.entryNodes = [.stored 0, .stored 3] := by decide
  have hperm : [.stored 3, .stored 0].Perm roundabout.entryNodes := hentries ▸ .swap _ _ _
  have hloop := (hone (.stored 0)).1
  obtain ⟨heverything, -⟩ := hall _ hperm
  have hmilk : roundabout.grammar.captured ⟨1⟩ = ["milk"] := by decide
  have hkept : roundabout.grammar.captured ⟨3⟩ = ["kept"] := by decide
  have hround : ∃ root ∈ [NodeRef.stored 0], roundabout.grammar.CapturesBelow root ⟨0⟩ :=
    ⟨_, List.mem_cons_self, 0, 0, ⟨0⟩, rfl, .refl, rfl, rfl⟩
  have hnote : ∃ root ∈ [NodeRef.stored 3, .stored 0],
      roundabout.grammar.CapturesBelow root ⟨1⟩ :=
    ⟨_, List.mem_cons_self, 3, 3, ⟨2⟩, rfl, .refl, rfl, rfl⟩
  have hbelowLoop : roundabout.grammar.reachable [.stored 0] = [0, 1] :=
    Grammar.reachable_eq_of_visitWithin 6 (by decide)
  have hbelowNote : roundabout.grammar.reachable [.stored 3] = [3, 2] :=
    Grammar.reachable_eq_of_visitWithin 6 (by decide)
  have hloopMilk : ¬ roundabout.grammar.CapturesBelow (.stored 0) ⟨1⟩ := by
    rw [← Grammar.clears_iff_capturesBelow, hbelowLoop]
    decide
  have hloopKept : ¬ roundabout.grammar.CapturesBelow (.stored 0) ⟨3⟩ := by
    rw [← Grammar.clears_iff_capturesBelow, hbelowLoop]
    decide
  have hnoteKept : ¬ roundabout.grammar.CapturesBelow (.stored 3) ⟨3⟩ := by
    rw [← Grammar.clears_iff_capturesBelow, hbelowNote]
    decide
  refine ⟨roundabout_reachable, hperm, by decide, hloop.emptied _ hround,
    (hloop.kept _ (by simpa using hloopMilk)).trans hmilk, heverything.emptied _ hnote,
    (heverything.kept _ (by simpa using ⟨hnoteKept, hloopKept⟩)).trans hkept⟩

end Dispatcher

end CommandGrammar
