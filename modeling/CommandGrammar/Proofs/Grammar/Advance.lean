import CommandGrammar.Grammar
import CommandGrammar.Proofs.Store.Resolution

/-! # Stepping through a grammar

A step changes nothing but the lists of the capture stores, so where tokens lead is the same
before and after it. What a step records depends on the node and the token alone: a token that
falls to the wildcard child of a capturing node is recorded once, in the logical store of the
node.
-/

namespace CommandGrammar

/-- Whether a token that a node resolves is resolved through its wildcard child: it is no key of
a child, or it is spelled like the wildcard. -/
def Node.fallsToWildcard {R : Type} (node : Node R) (token : String) : Bool :=
  (node.child? token).isNone || token == wildcard

theorem Node.fallsToWildcard_of_step? {R : Type} {node : Node R} {token : String} {index : Nat}
    {fell : Bool} (hstep : node.step? token = some (index, fell)) :
    node.fallsToWildcard token = fell := by
  unfold step? at hstep
  unfold fallsToWildcard
  cases hchild : node.child? token with
  | none =>
      simp only [hchild, Option.map_eq_some_iff, Prod.mk.injEq] at hstep
      obtain ⟨_, _, _, rfl⟩ := hstep
      rfl
  | some child =>
      simp only [hchild, Option.some.injEq, Prod.mk.injEq] at hstep
      simp [hstep.2]

namespace Grammar

variable {R : Type} (grammar : Grammar R)

/-- Two grammars with the same nodes and the same redirections of stores; only the captured
tokens may differ. -/
structure SameStructure (left right : Grammar R) : Prop where
  nodes_eq : left.nodes = right.nodes
  stores : left.stores.SameShape right.stores

namespace SameStructure

variable {left middle right : Grammar R}

theorem refl (grammar : Grammar R) : grammar.SameStructure grammar := ⟨rfl, .refl _⟩

theorem trans (hfirst : left.SameStructure middle) (hsecond : middle.SameStructure right) :
    left.SameStructure right :=
  ⟨hfirst.nodes_eq.trans hsecond.nodes_eq, hfirst.stores.trans hsecond.stores⟩

theorem node?_eq (hsame : left.SameStructure right) (node : NodeRef) :
    left.node? node = right.node? node := by
  cases node with
  | notFound => rfl
  | stored index => simp only [node?, hsame.nodes_eq]

theorem lookup_eq (hsame : left.SameStructure right) : left.lookup = right.lookup := by
  funext node token
  simp only [lookup, hsame.node?_eq]

theorem isExecutable_eq (hsame : left.SameStructure right) (node : NodeRef) :
    left.isExecutable node = right.isExecutable node := by
  simp only [isExecutable, hsame.node?_eq]

theorem sameStore_eq (hsame : left.SameStructure right) (a b : StoreRef) :
    left.sameStore a b = right.sameStore a b :=
  hsame.stores.isUnified_eq a b

end SameStructure

/-- Whether resolving a token beneath a node records it in a logical store. -/
def records (node : NodeRef) (token : String) (store : StoreRef) : Bool :=
  (grammar.node? node).any fun found =>
    found.fallsToWildcard token && found.store.any (grammar.sameStore · store)

theorem SameStructure.records_eq {left right : Grammar R} (hsame : left.SameStructure right)
    (node : NodeRef) (token : String) (store : StoreRef) :
    left.records node token store = right.records node token store := by
  simp only [records, hsame.node?_eq, hsame.sameStore_eq]

/-! ## One step -/

@[simp] theorem lookup_notFound (token : String) : grammar.lookup .notFound token = .notFound := rfl

theorem execute_of_not_isExecutable {grammar : Grammar R} {node : NodeRef}
    (hexecutable : grammar.isExecutable node = false) : grammar.execute node = none := by
  unfold isExecutable at hexecutable
  unfold execute
  cases hnode : grammar.node? node with
  | none => rfl
  | some found =>
      rw [hnode] at hexecutable
      have haction : found.action = none := by simpa [Node.isExecutable] using hexecutable
      simp [haction]

theorem execute_of_isExecutable {grammar : Grammar R} {node : NodeRef}
    (hexecutable : grammar.isExecutable node = true) :
    ∃ found action, grammar.node? node = some found ∧ found.action = some action ∧
      grammar.execute node = some (action grammar.captures) := by
  unfold isExecutable at hexecutable
  unfold execute
  cases hnode : grammar.node? node with
  | none => simp [hnode] at hexecutable
  | some found =>
      rw [hnode] at hexecutable
      obtain ⟨action, haction⟩ := Option.isSome_iff_exists.mp hexecutable
      exact ⟨found, action, rfl, haction, by simp [haction]⟩

/-- A step leads nowhere, leads on without recording, or leads on and records. -/
theorem advance_cases (node : NodeRef) (token : String) :
    (grammar.lookup node token = .notFound ∧
      grammar.advance node token = ⟨.notFound, grammar, []⟩) ∨
    (∃ index found, grammar.lookup node token = .stored index ∧ grammar.node? node = some found ∧
      (found.fallsToWildcard token = false ∨ found.store = none) ∧
      grammar.advance node token = ⟨.stored index, grammar, []⟩) ∨
    (∃ index found own, grammar.lookup node token = .stored index ∧
      grammar.node? node = some found ∧ found.fallsToWildcard token = true ∧
      found.store = some own ∧
      grammar.advance node token =
        ⟨.stored index, { grammar with stores := (grammar.stores.push own token).1 },
          .capturedToken found.name token :: (grammar.stores.push own token).2⟩) := by
  cases hnode : grammar.node? node with
  | none => exact .inl (by simp [lookup, advance, hnode])
  | some found =>
      cases hstep : found.step? token with
      | none => exact .inl (by simp [lookup, advance, hnode, hstep])
      | some step =>
          obtain ⟨index, fell⟩ := step
          have hlookup : grammar.lookup node token = .stored index := by
            simp [lookup, hnode, hstep]
          have hfalls := Node.fallsToWildcard_of_step? hstep
          cases fell with
          | false =>
              refine .inr (.inl ⟨index, found, hlookup, rfl, .inl hfalls, ?_⟩)
              simp [advance, hnode, hstep]
          | true =>
              cases hstore : found.store with
              | none =>
                  refine .inr (.inl ⟨index, found, hlookup, rfl, .inr hstore, ?_⟩)
                  simp [advance, hnode, hstep, hstore]
              | some own =>
                  refine .inr (.inr ⟨index, found, own, hlookup, rfl, hfalls, hstore, ?_⟩)
                  simp [advance, hnode, hstep, hstore]

theorem value_advance (node : NodeRef) (token : String) :
    (grammar.advance node token).value = grammar.lookup node token := by
  rcases grammar.advance_cases node token with ⟨hlookup, hstep⟩ | ⟨_, _, hlookup, _, _, hstep⟩ |
    ⟨_, _, _, hlookup, _, _, _, hstep⟩ <;> rw [hstep, hlookup]

theorem advance_sameStructure (node : NodeRef) (token : String) :
    (grammar.advance node token).grammar.SameStructure grammar := by
  rcases grammar.advance_cases node token with ⟨_, hstep⟩ | ⟨_, _, _, _, _, hstep⟩ |
    ⟨_, _, own, _, _, _, _, hstep⟩
  · rw [hstep]
    exact .refl grammar
  · rw [hstep]
    exact .refl grammar
  · rw [hstep]
    exact ⟨rfl, grammar.stores.push_sameShape own token⟩

/-- A token that leads nowhere leaves the grammar alone. -/
theorem advance_of_lookup_eq_notFound {grammar : Grammar R} {node : NodeRef} {token : String}
    (hnowhere : grammar.lookup node token = .notFound) :
    grammar.advance node token = ⟨.notFound, grammar, []⟩ := by
  rcases grammar.advance_cases node token with ⟨_, hstep⟩ | ⟨_, _, hlookup, _⟩ |
    ⟨_, _, _, hlookup, _⟩
  · exact hstep
  · simp [hlookup] at hnowhere
  · simp [hlookup] at hnowhere

/-- A step that leads on appends its token to the stores that it records in, and to no other. -/
theorem captured_advance {grammar : Grammar R} {node : NodeRef} {token : String}
    (hleads : grammar.lookup node token ≠ .notFound) (store : StoreRef) :
    (grammar.advance node token).grammar.captured store =
      grammar.captured store ++ if grammar.records node token store then [token] else [] := by
  rcases grammar.advance_cases node token with ⟨hlookup, _⟩ | ⟨_, found, _, hnode, hsilent, hstep⟩ |
    ⟨_, found, own, _, hnode, hfalls, hstore, hstep⟩
  · exact absurd hlookup hleads
  · have hrecords : grammar.records node token store = false := by
      rcases hsilent with hfalls | hstore
      · simp [records, hnode, hfalls]
      · simp [records, hnode, hstore]
    simp [hstep, hrecords]
  · have hrecords : grammar.records node token store = grammar.stores.isUnified own store := by
      simp [records, hnode, hfalls, hstore, sameStore]
    rw [hstep, hrecords]
    simp only [captured, grammar.stores.values_push own token store]
    split <;> simp

/-! ## Several steps -/

/-- Steps with one token after the other, also beyond the place where they lead nowhere. -/
def advanceAll : Grammar R → NodeRef → List String → Change R NodeRef
  | grammar, node, [] => ⟨node, grammar, []⟩
  | grammar, node, token :: rest =>
    let step := grammar.advance node token
    let final := step.grammar.advanceAll step.value rest
    ⟨final.value, final.grammar, step.trace ++ final.trace⟩

theorem advanceAll_sameStructure (node : NodeRef) (tokens : List String) :
    (grammar.advanceAll node tokens).grammar.SameStructure grammar := by
  induction tokens generalizing grammar node with
  | nil => exact .refl grammar
  | cons token rest ih =>
      exact (ih _ _).trans (grammar.advance_sameStructure node token)

theorem value_advanceAll (node : NodeRef) (tokens : List String) :
    (grammar.advanceAll node tokens).value = tokens.foldl grammar.lookup node := by
  induction tokens generalizing grammar node with
  | nil => rfl
  | cons token rest ih =>
      rw [advanceAll, ih, value_advance, (grammar.advance_sameStructure node token).lookup_eq]
      rfl

theorem foldl_lookup_notFound (tokens : List String) :
    tokens.foldl grammar.lookup .notFound = .notFound := by
  induction tokens with
  | nil => rfl
  | cons token rest ih => exact ih

/-- The tokens that a logical store records while tokens are resolved from a node on. -/
def recorded (node : NodeRef) (store : StoreRef) : List String → List String
  | [] => []
  | token :: rest =>
    (if grammar.records node token store then [token] else []) ++
      recorded (grammar.lookup node token) store rest

theorem SameStructure.recorded_eq {left right : Grammar R} (hsame : left.SameStructure right)
    (node : NodeRef) (store : StoreRef) (tokens : List String) :
    left.recorded node store tokens = right.recorded node store tokens := by
  induction tokens generalizing node with
  | nil => rfl
  | cons token rest ih => simp only [recorded, hsame.records_eq, hsame.lookup_eq, ih]

/-- Tokens never lead on again from where one has led nowhere. -/
theorem leads_of_foldl_cons {grammar : Grammar R} {node : NodeRef} {token : String}
    {rest : List String} (hresolves : (token :: rest).foldl grammar.lookup node ≠ .notFound) :
    grammar.lookup node token ≠ .notFound := by
  intro hnone
  rw [List.foldl_cons, hnone, foldl_lookup_notFound] at hresolves
  exact hresolves rfl

/-- Steps that all lead on append what the store records to what it held. -/
theorem captured_advanceAll {grammar : Grammar R} {node : NodeRef} {tokens : List String}
    (hresolves : tokens.foldl grammar.lookup node ≠ .notFound) (store : StoreRef) :
    (grammar.advanceAll node tokens).grammar.captured store =
      grammar.captured store ++ grammar.recorded node store tokens := by
  induction tokens generalizing grammar node with
  | nil => simp [advanceAll, recorded]
  | cons token rest ih =>
      have hlookup := leads_of_foldl_cons hresolves
      have hsame := grammar.advance_sameStructure node token
      have hrest : rest.foldl (grammar.advance node token).grammar.lookup
          (grammar.advance node token).value ≠ .notFound := by
        rw [hsame.lookup_eq, value_advance]
        exact hresolves
      rw [advanceAll, ih hrest, captured_advance hlookup, value_advance, hsame.recorded_eq,
        recorded, List.append_assoc]

end Grammar

end CommandGrammar
