import CommandGrammar.Proofs.Dispatch.Agreement
import CommandGrammar.Proofs.Session.Alike
import CommandGrammar.Proofs.Session.Integrity

/-! # Attaching in either order

Two children that do not take each other's place can be attached in either order. The nodes come
out the same. The stores may be redirected along different chains and to different lists, but while
they hold no tokens they read alike, and so do the dispatchers: no later session can tell in which
order the children were attached.
-/

namespace CommandGrammar

variable {R : Type}

/-- Children under different keys can be registered in either order, wildcard children too. -/
theorem Node.insertChild_comm (node : Node R) {key otherKey : String} (hkeys : key ≠ otherKey)
    (child otherChild : Nat) :
    (node.insertChild key child).insertChild otherKey otherChild =
      (node.insertChild otherKey otherChild).insertChild key child := by
  have hchildren : (node.children.insert key child).insert otherKey otherChild =
      (node.children.insert otherKey otherChild).insert key child := by
    apply Std.ExtTreeMap.ext_getElem?
    intro other
    simp only [Std.ExtTreeMap.getElem?_insert, Std.compare_eq_iff_eq]
    by_cases hother : otherKey = other
    · simp [hother, show key ≠ other from hother ▸ hkeys]
    · simp [hother]
  by_cases hkey : key = wildcard
  · subst hkey
    simp [insertChild, hchildren, hkeys.symm]
  · simp [insertChild, hchildren, hkey]

namespace Grammar

variable {grammar : Grammar R}

theorem nodes_link_link {parent otherParent : Nat} {key otherKey : String}
    (hedges : (parent, key) ≠ (otherParent, otherKey)) (child otherChild : Nat) :
    ((grammar.link parent key child).1.link otherParent otherKey otherChild).1.nodes =
      ((grammar.link otherParent otherKey otherChild).1.link parent key child).1.nodes := by
  simp only [nodes_link]
  apply Array.ext_getElem?
  intro index
  simp only [Array.getElem?_modify]
  by_cases hparent : parent = index
  · by_cases hother : otherParent = index
    · have hkeys : key ≠ otherKey := by
        rintro rfl
        exact hedges (by rw [hparent, hother])
      cases grammar.nodes[index]? with
      | none => simp
      | some node => simp [hparent, hother, node.insertChild_comm hkeys child otherChild]
    · simp [hparent, hother]
  · simp [hparent]

/-- Draws edges one after the other, each given by its parent, its key and its child. -/
def linkEach (grammar : Grammar R) (edges : List (Nat × String × Nat)) : Grammar R :=
  edges.foldl (fun current edge => (current.link edge.1 edge.2.1 edge.2.2).1) grammar

theorem nodes_linkEach (grammar : Grammar R) (edges : List (Nat × String × Nat)) :
    (grammar.linkEach edges).nodes = edges.foldl
      (fun nodes edge => nodes.modify edge.1 (·.insertChild edge.2.1 edge.2.2)) grammar.nodes := by
  induction edges generalizing grammar with
  | nil => rfl
  | cons edge rest ih =>
      calc (grammar.linkEach (edge :: rest)).nodes
          = ((grammar.link edge.1 edge.2.1 edge.2.2).1.linkEach rest).nodes := rfl
        _ = _ := by rw [ih, nodes_link, List.foldl_cons]

/-- The order in which edges are drawn leaves no trace in the nodes, as long as no edge takes the
place of another one. -/
theorem nodes_linkEach_perm (grammar : Grammar R) {edges others : List (Nat × String × Nat)}
    (hperm : edges.Perm others) (hkeys : (edges.map fun edge => (edge.1, edge.2.1)).Nodup) :
    (grammar.linkEach edges).nodes = (grammar.linkEach others).nodes := by
  rw [nodes_linkEach, nodes_linkEach]
  refine hperm.foldl_eq' (fun edge hedge other hother nodes => ?_) grammar.nodes
  by_cases hsame : (edge.1, edge.2.1) = (other.1, other.2.1)
  · obtain rfl := List.inj_on_of_nodup_map hkeys hedge hother hsame
    rfl
  · have hcomm := @nodes_link_link R ⟨nodes, {}⟩ _ _ _ _ hsame edge.2.2 other.2.2
    simpa only [nodes_link] using hcomm

/-- Whether an edge unifies stores, and which, does not depend on the edges drawn before it. -/
theorem stores_link_cases (grammar : Grammar R) (parent child : Nat) :
    (∀ (current : Grammar R) (key : String), current.storeAt = grammar.storeAt →
        (current.link parent key child).1.stores = current.stores) ∨
      ∃ own other, ∀ (current : Grammar R) (key : String), current.storeAt = grammar.storeAt →
        (current.link parent key child).1.stores = (current.stores.unify own other).2 := by
  cases hparent : grammar.storeAt parent with
  | none => exact .inl fun current key hsame => by rw [stores_link, hsame, hparent]
  | some own =>
      cases hchild : grammar.storeAt child with
      | none => exact .inl fun current key hsame => by rw [stores_link, hsame, hparent, hchild]
      | some other =>
          exact .inr ⟨own, other, fun current key hsame => by
            rw [stores_link, hsame, hparent, hchild]⟩

theorem stores_link_link_alike (hgrounded : grammar.stores.Grounded)
    (hdrained : grammar.stores.Drained) (parent otherParent : Nat) (key otherKey : String)
    (child otherChild : Nat) :
    ((grammar.link parent key child).1.link otherParent otherKey otherChild).1.stores.Alike
      ((grammar.link otherParent otherKey otherChild).1.link parent key child).1.stores := by
  have hfirst := grammar.storeAt_link parent key child
  have hsecond := grammar.storeAt_link otherParent otherKey otherChild
  rcases grammar.stores_link_cases parent child with hkeeps | ⟨own, other, hunifies⟩
  · rw [hkeeps _ _ hsecond]
    rcases grammar.stores_link_cases otherParent otherChild with hkeeps' | ⟨own', other', hunifies'⟩
    · rw [hkeeps' _ _ hfirst, hkeeps' _ _ rfl, hkeeps _ _ rfl]
      exact .refl hgrounded
    · rw [hunifies' _ _ hfirst, hunifies' _ _ rfl, hkeeps _ _ rfl]
      exact .refl (hgrounded.unify own' other')
  · rw [hunifies _ _ hsecond]
    rcases grammar.stores_link_cases otherParent otherChild with hkeeps' | ⟨own', other', hunifies'⟩
    · rw [hkeeps' _ _ hfirst, hkeeps' _ _ rfl, hunifies _ _ rfl]
      exact .refl (hgrounded.unify own other)
    · rw [hunifies' _ _ hfirst, hunifies' _ _ rfl, hunifies _ _ rfl]
      exact hdrained.unify_unify_alike hgrounded own other own' other'

theorem link_link_alike (hgrounded : grammar.stores.Grounded) (hdrained : grammar.stores.Drained)
    {parent otherParent : Nat} {key otherKey : String}
    (hedges : (parent, key) ≠ (otherParent, otherKey)) (child otherChild : Nat) :
    ((grammar.link parent key child).1.link otherParent otherKey otherChild).1.Alike
      ((grammar.link otherParent otherKey otherChild).1.link parent key child).1 :=
  ⟨nodes_link_link hedges child otherChild,
    stores_link_link_alike hgrounded hdrained parent otherParent key otherKey child otherChild⟩

end Grammar

namespace Dispatcher

/-- Two dispatchers that show the same: the nodes, with their children and default children, the
entries and the tokenizer; which store handles exist, which of them are one logical store and what
they read; where tokens lead; and what commands come to. -/
structure ShowsSame (left right : Dispatcher R) : Prop where
  nodes_eq : left.grammar.nodes = right.grammar.nodes
  entries_eq : left.entries = right.entries
  tokenizer_eq : left.tokenizer = right.tokenizer
  contains_eq : ∀ store, left.grammar.stores.contains store = right.grammar.stores.contains store
  sameStore_eq : ∀ a b, left.grammar.sameStore a b = right.grammar.sameStore a b
  captured_eq : ∀ store, left.grammar.captured store = right.grammar.captured store
  resolve_eq : ∀ tokens, left.resolve tokens = right.resolve tokens
  outcome_runTokens_eq : ∀ tokens,
    (left.runTokens tokens).outcome = (right.runTokens tokens).outcome
  outcome_run_eq : ∀ command, (left.run command).outcome = (right.run command).outcome

theorem Alike.showsSame {left right : Dispatcher R} (halike : left.Alike right) :
    left.ShowsSame right where
  nodes_eq := halike.grammar.nodes_eq
  entries_eq := halike.entries_eq
  tokenizer_eq := halike.tokenizer_eq
  contains_eq := halike.grammar.stores.contains_eq
  sameStore_eq := halike.grammar.sameStore_eq
  captured_eq := halike.grammar.captured_eq
  resolve_eq := halike.resolve_eq
  outcome_runTokens_eq := fun tokens => (halike.runTokens tokens).outcome_eq
  outcome_run_eq := fun command => (halike.run command).outcome_eq

variable {dispatcher : Dispatcher R} {parent child otherParent otherChild : Nat}

/-- Attaching a child does not keep another one from being attached. -/
theorem perform_attach_after_attach
    (hfirst : (dispatcher.perform (.attach (.stored parent) (.stored child))).response = .done)
    (hsecond : (dispatcher.perform
      (.attach (.stored otherParent) (.stored otherChild))).response = .done) :
    ((dispatcher.perform (.attach (.stored parent) (.stored child))).dispatcher.perform
      (.attach (.stored otherParent) (.stored otherChild))).response = .done := by
  obtain ⟨hchild, node, hnode, hopen⟩ := perform_attach_done_iff.mp hsecond
  rw [perform_attach_done_iff, dispatcher_perform_attach hfirst]
  refine ⟨by rwa [Grammar.size_link], ?_⟩
  rw [Grammar.nodes_link, Array.getElem?_modify, hnode]
  split
  · exact ⟨_, rfl, hopen⟩
  · exact ⟨node, rfl, hopen⟩

theorem grammar_attach_attach
    (hfirst : (dispatcher.perform (.attach (.stored parent) (.stored child))).response = .done)
    (hsecond : (dispatcher.perform
      (.attach (.stored otherParent) (.stored otherChild))).response = .done) :
    dispatcher.afterAll [.attach (.stored parent) (.stored child),
        .attach (.stored otherParent) (.stored otherChild)] =
      { dispatcher with
        grammar := ((dispatcher.grammar.link parent (dispatcher.grammar.nameAt child) child).1.link
          otherParent (dispatcher.grammar.nameAt otherChild) otherChild).1 } := by
  have hafter := dispatcher_perform_attach (perform_attach_after_attach hfirst hsecond)
  rw [dispatcher_perform_attach hfirst, Grammar.nameAt_link] at hafter
  rw [← hafter, ← dispatcher_perform_attach hfirst]
  rfl

/-- The order of two attachments cannot be observed. Where all stores are empty, two children that
can be attached, not both under one name to one node, can be attached in either order, whatever
they and their parents capture into. Whichever order it was, every later session has the same
answers and traces, be it that it builds, unifies, registers, runs commands or even captures
directly, and the dispatchers show the same behind it. -/
theorem Reachable.attach_in_either_order (hreach : dispatcher.Reachable)
    (hempty : ∀ store, dispatcher.grammar.captured store = [])
    (hfirst : (dispatcher.perform (.attach (.stored parent) (.stored child))).response = .done)
    (hsecond : (dispatcher.perform
      (.attach (.stored otherParent) (.stored otherChild))).response = .done)
    (hedges : (parent, dispatcher.grammar.nameAt child) ≠
      (otherParent, dispatcher.grammar.nameAt otherChild))
    (operations : List (Operation R)) :
    let first : Operation R := .attach (.stored parent) (.stored child)
    let second : Operation R := .attach (.stored otherParent) (.stored otherChild)
    let left := dispatcher.afterAll [first, second]
    let right := dispatcher.afterAll [second, first]
    ((dispatcher.perform first).dispatcher.perform second).response = .done ∧
      ((dispatcher.perform second).dispatcher.perform first).response = .done ∧
      (left.performAll operations).map (·.response) =
        (right.performAll operations).map (·.response) ∧
      (left.performAll operations).map (·.trace) = (right.performAll operations).map (·.trace) ∧
      (left.afterAll operations).ShowsSame (right.afterAll operations) := by
  intro first second left right
  have hdrained : dispatcher.grammar.stores.Drained := (StoreTable.drained_iff _).mpr hempty
  have halike : left.Alike right := by
    simp only [left, right, first, second]
    rw [grammar_attach_attach hfirst hsecond, grammar_attach_attach hsecond hfirst]
    exact ⟨Grammar.link_link_alike hreach.grounded hdrained hedges child otherChild, rfl, rfl⟩
  obtain ⟨hresponses, htraces⟩ := halike.performAll operations
  exact ⟨perform_attach_after_attach hfirst hsecond, perform_attach_after_attach hsecond hfirst,
    hresponses, htraces, (halike.afterAll operations).showsSame⟩

/-- The dispatcher for commands such as `use alice show`, with two more capturing nodes. -/
def nameShowerWithNotes : Dispatcher (List String) :=
  nameShower.afterAll [.build (.capturing "note"), .build (.capturing wildcard)]

/-- Attaching `note` to `use` and a wildcard node to `note` unifies three stores along different
chains, depending on the order. What is captured below `note` is read by `show` all the same. -/
theorem attach_in_either_order_note :
    let first : Operation (List String) := .attach (.stored 2) (.stored 3)
    let second : Operation (List String) := .attach (.stored 3) (.stored 4)
    let later : List (Operation (List String)) := [.attach (.stored 4) (.stored 0)]
    let left := nameShowerWithNotes.afterAll [first, second]
    let right := nameShowerWithNotes.afterAll [second, first]
    left.grammar.stores ≠ right.grammar.stores ∧
      (left.afterAll later).ShowsSame (right.afterAll later) ∧
      ((left.afterAll later).runTokens ["use", "note", "milk", "show"]).outcome =
        .executed ["milk"] := by
  have hreach : nameShowerWithNotes.Reachable := nameShower_reachable.afterAll _
  have hempty : ∀ store, nameShowerWithNotes.grammar.captured store = [] := by
    have hslots : ∀ slot ∈ nameShowerWithNotes.grammar.stores.slots.toList,
        slot.target? = none → slot = .owned [] := by decide
    refine (StoreTable.drained_iff _).mp fun place values hslot => ?_
    have hmem := Array.mem_toList_iff.mpr (Array.mem_of_getElem? hslot)
    exact StoreSlot.owned.inj (hslots _ hmem rfl)
  have hfirst : (nameShowerWithNotes.perform (.attach (.stored 2) (.stored 3))).response = .done :=
    rfl
  have hsecond : (nameShowerWithNotes.perform (.attach (.stored 3) (.stored 4))).response = .done :=
    rfl
  have hall := hreach.attach_in_either_order hempty hfirst hsecond (by decide)
    [.attach (.stored 4) (.stored 0)]
  exact ⟨by decide, hall.2.2.2.2, by decide⟩

end Dispatcher

end CommandGrammar
