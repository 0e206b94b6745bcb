import CommandGrammar.Proofs.Grammar.Appending
import CommandGrammar.Proofs.Session.Invariant

/-! # Grammars that agree along a command

What a command comes to is decided by what it meets: where its tokens lead one after the other,
what they record on the way, and the action of the node on which the walk settles. Two grammars
that agree there give the same outcome, whatever else they hold. So a child that is attached where
a command does not pass, or under a key that the command does not use, does not change what the
command comes to.
-/

namespace CommandGrammar

variable {R : Type}

namespace Grammar

/-- The action of the node of a handle. -/
def action? (grammar : Grammar R) (node : NodeRef) : Option (Action R) :=
  (grammar.node? node).bind (·.action)

theorem execute_eq_map (grammar : Grammar R) (node : NodeRef) :
    grammar.execute node = (grammar.action? node).map fun action => action grammar.captures := by
  rw [execute, action?, Option.map_bind]
  rfl

theorem SameStructure.action?_eq {left right : Grammar R} (hsame : left.SameStructure right)
    (node : NodeRef) : left.action? node = right.action? node := by
  simp only [action?, hsame.node?_eq]

/-- A token leads from a node to the same place in both grammars and is recorded in the same
stores. -/
structure AgreeAt (left right : Grammar R) (node : NodeRef) (token : String) : Prop where
  lookup_eq : left.lookup node token = right.lookup node token
  records_eq : ∀ store, left.records node token store = right.records node token store

/-- The grammars agree on every token at the node that the tokens before it lead to. -/
def AgreeAlong (left right : Grammar R) (node : NodeRef) (tokens : List String) : Prop :=
  ∀ (i : Nat) (token : String), tokens[i]? = some token →
    left.AgreeAt right ((tokens.take i).foldl left.lookup node) token

namespace AgreeAlong

variable {left right : Grammar R} {node : NodeRef}

theorem head {token : String} {rest : List String}
    (halong : left.AgreeAlong right node (token :: rest)) : left.AgreeAt right node token :=
  halong 0 token rfl

theorem tail {token : String} {rest : List String}
    (halong : left.AgreeAlong right node (token :: rest)) :
    left.AgreeAlong right (left.lookup node token) rest :=
  fun i next hnext => halong (i + 1) next hnext

theorem take {tokens : List String} (halong : left.AgreeAlong right node tokens) (count : Nat) :
    left.AgreeAlong right node (tokens.take count) := by
  intro i token htoken
  rw [List.getElem?_take] at htoken
  split at htoken
  next hlt =>
    rw [List.take_take, Nat.min_eq_left (Nat.le_of_lt hlt)]
    exact halong i token htoken
  next => simp at htoken

theorem foldl_eq {tokens : List String} (halong : left.AgreeAlong right node tokens) :
    tokens.foldl left.lookup node = tokens.foldl right.lookup node := by
  induction tokens generalizing node with
  | nil => rfl
  | cons token rest ih =>
      rw [List.foldl_cons, List.foldl_cons, ← halong.head.lookup_eq]
      exact ih halong.tail

theorem progress_eq {tokens : List String} (halong : left.AgreeAlong right node tokens) :
    left.progress node tokens = right.progress node tokens := by
  induction tokens generalizing node with
  | nil => rfl
  | cons token rest ih =>
      rw [progress, progress, ← halong.head.lookup_eq, ih halong.tail]

theorem recorded_eq {tokens : List String} (halong : left.AgreeAlong right node tokens)
    (store : StoreRef) : left.recorded node store tokens = right.recorded node store tokens := by
  induction tokens generalizing node with
  | nil => rfl
  | cons token rest ih =>
      rw [recorded, recorded, halong.head.records_eq, ← halong.head.lookup_eq, ih halong.tail]

theorem value_settled_eq {tokens : List String} (halong : left.AgreeAlong right node tokens) :
    (left.settled node tokens).value = (right.settled node tokens).value := by
  rw [value_settled, value_settled, ← halong.progress_eq]
  exact (halong.take _).foldl_eq

/-- Where the grammars agree, the walk records the same, and every store reads the same at its
end if it did so at the beginning. -/
theorem captured_settled_eq {tokens : List String} (halong : left.AgreeAlong right node tokens)
    (hcaptured : ∀ store, left.captured store = right.captured store) (store : StoreRef) :
    (left.settled node tokens).grammar.captured store =
      (right.settled node tokens).grammar.captured store := by
  cases node with
  | notFound =>
      rw [settled_of_progress_eq_zero (left.progress_notFound tokens),
        settled_of_progress_eq_zero (right.progress_notFound tokens)]
      exact hcaptured store
  | stored index =>
      have hresolves := fun grammar : Grammar R =>
        (foldl_take_ne_notFound_iff (by simp)
          (grammar.progress_le_length (.stored index) tokens)).mpr (Nat.le_refl _)
      rw [settled, settled, captured_advanceAll (hresolves left),
        captured_advanceAll (hresolves right), hcaptured, ← halong.progress_eq,
        (halong.take _).recorded_eq]

/-- Where the grammars agree, the same action runs on the same captures. -/
theorem execute_settled_eq {tokens : List String} (halong : left.AgreeAlong right node tokens)
    (hcaptured : ∀ store, left.captured store = right.captured store)
    (haction : left.action? (left.settled node tokens).value =
      right.action? (left.settled node tokens).value) :
    (left.settled node tokens).grammar.execute (left.settled node tokens).value =
      (right.settled node tokens).grammar.execute (right.settled node tokens).value := by
  have hview : (left.settled node tokens).grammar.captures =
      (right.settled node tokens).grammar.captures :=
    congrArg Captures.mk (funext (halong.captured_settled_eq hcaptured))
  rw [execute_eq_map, execute_eq_map, hview, ← halong.value_settled_eq,
    (left.settled_sameStructure node tokens).action?_eq,
    (right.settled_sameStructure node tokens).action?_eq, haction]

end AgreeAlong

/-! ## A new child -/

section Link

variable {grammar : Grammar R} {parent child : Nat} {key : String} {parentNode : Node R}

/-- A token other than the key steps from the node as if there were no new child, unless the child
is the wildcard child and the token has no child of its own. -/
theorem step?_insertChild_of_ne (node : Node R) (child : Nat) {key token : String}
    (hkey : token ≠ key) (hwildcard : key = wildcard → node.child? token ≠ none) :
    (node.insertChild key child).step? token = node.step? token := by
  unfold Node.step?
  rw [Node.child?_insertChild, if_neg hkey.symm]
  cases htoken : node.child? token with
  | some index => rfl
  | none =>
      have hplain : key ≠ wildcard := fun hsame => hwildcard hsame htoken
      simp [Node.insertChild, hplain]

theorem node?_link_of_ne {node : NodeRef} (hnode : node ≠ .stored parent) :
    (grammar.link parent key child).1.node? node = grammar.node? node := by
  cases node with
  | notFound => rfl
  | stored index =>
      have hindex : parent ≠ index := fun hsame => hnode (congrArg NodeRef.stored hsame.symm)
      rw [node?, node?, nodes_link, Array.getElem?_modify, if_neg hindex]

theorem node?_link_self (hparent : grammar.nodes[parent]? = some parentNode) :
    (grammar.link parent key child).1.node? (.stored parent) =
      some (parentNode.insertChild key child) := getElem?_nodes_link_self hparent

theorem action?_link (node : NodeRef) :
    (grammar.link parent key child).1.action? node = grammar.action? node := by
  by_cases hnode : node = .stored parent
  · subst hnode
    cases hparent : grammar.nodes[parent]? with
    | none => simp [action?, node?, nodes_link, Array.getElem?_modify, hparent]
    | some parentNode =>
        have hbefore : grammar.node? (.stored parent) = some parentNode := hparent
        rw [action?, action?, node?_link_self hparent, hbefore]
        rfl
  · rw [action?, action?, node?_link_of_ne hnode]

/-- An edge that unifies nothing changes what a token meets only at the parent, and there only for
its key and, if it is drawn to a wildcard child, for the tokens without a child of their own. -/
theorem agreeAt_link (hparent : grammar.nodes[parent]? = some parentNode)
    (hstores : (grammar.link parent key child).1.stores = grammar.stores)
    {node : NodeRef} {token : String}
    (hunused : node = .stored parent →
      token ≠ key ∧ (key = wildcard → parentNode.child? token ≠ none)) :
    grammar.AgreeAt (grammar.link parent key child).1 node token := by
  have hsame : ∀ a b, grammar.sameStore a b = (grammar.link parent key child).1.sameStore a b := by
    intro a b
    rw [sameStore, sameStore, hstores]
  by_cases hnode : node = .stored parent
  · obtain ⟨hkey, hwildcard⟩ := hunused hnode
    have hbefore : grammar.node? node = some parentNode := by rw [hnode]; exact hparent
    have hafter : (grammar.link parent key child).1.node? node =
        some (parentNode.insertChild key child) := by rw [hnode]; exact node?_link_self hparent
    refine ⟨?_, fun store => ?_⟩
    · simp only [lookup, hbefore, hafter, Option.bind_some,
        step?_insertChild_of_ne parentNode child hkey hwildcard]
    · simp only [records, hbefore, hafter, Option.any_some, hsame, Node.fallsToWildcard,
        Node.child?_insertChild, if_neg hkey.symm]
      rfl
  · refine ⟨?_, fun store => ?_⟩
    · simp only [lookup, node?_link_of_ne hnode]
    · simp only [records, node?_link_of_ne hnode, hsame]

end Link

end Grammar

namespace Dispatcher

/-- Two dispatchers that lead a command to the same entry, and whose grammars agree from there on,
give it the same outcome. -/
theorem outcome_eq_of_agreeAlong {left right : Dispatcher R} {first : String} {rest : List String}
    (hentry : left.entry first = right.entry first)
    (halong : left.grammar.AgreeAlong right.grammar (left.entry first) rest)
    (hcaptured : ∀ store, left.grammar.captured store = right.grammar.captured store)
    (haction : left.grammar.action? (left.settled first rest).value =
      right.grammar.action? (left.settled first rest).value) :
    (left.runTokens (first :: rest)).outcome = (right.runTokens (first :: rest)).outcome := by
  rw [outcome_runTokens_cons, outcome_runTokens_cons]
  unfold settled at haction ⊢
  rw [← hentry, halong.execute_settled_eq hcaptured haction]

/-! ## Attaching a child -/

section Attach

variable {dispatcher : Dispatcher R} {parent child : Nat}

/-- Attaching one stored node to another succeeds unless the parent is executable, and then it
draws one edge. -/
theorem perform_attach_done_iff :
    (dispatcher.perform (.attach (.stored parent) (.stored child))).response = .done ↔
      child < dispatcher.grammar.nodes.size ∧
        ∃ node, dispatcher.grammar.nodes[parent]? = some node ∧ node.isExecutable = false := by
  rw [perform]
  constructor
  · intro hdone
    cases hattach : dispatcher.grammar.attach (.stored parent) (.stored child) with
    | error error => simp [hattach, performChange] at hdone
    | ok change =>
        obtain ⟨hnone, _⟩ | ⟨_, _, node, hparent, hplace, hnode, hopen, _⟩ :=
          Grammar.attach_eq_ok hattach
        · simp at hnone
        · obtain rfl := NodeRef.stored.inj hparent
          obtain ⟨hchild, hbound⟩ := Grammar.place?_eq_some_iff.mp hplace
          obtain rfl := NodeRef.stored.inj hchild
          exact ⟨hbound, node, hnode, hopen⟩
  · rintro ⟨hchild, node, hparent, hopen⟩
    rw [Grammar.attach_of_open hparent hopen hchild, performChange]

theorem dispatcher_perform_attach
    (hdone : (dispatcher.perform (.attach (.stored parent) (.stored child))).response = .done) :
    (dispatcher.perform (.attach (.stored parent) (.stored child))).dispatcher =
      { dispatcher with
        grammar :=
          (dispatcher.grammar.link parent (dispatcher.grammar.nameAt child) child).1 } := by
  obtain ⟨hchild, node, hparent, hopen⟩ := perform_attach_done_iff.mp hdone
  rw [perform, Grammar.attach_of_open hparent hopen hchild, performChange]

/-- Attaching is local. If a child is attached to a node and not both capture, a command comes to
the same as before unless it uses the new edge: unless at some time it goes on from the node with
the name of the child or, if the child is a wildcard child, with a token that is no key of the
node. This holds also if the new child takes the place of another, if the nodes lie on cycles that
the command passes several times, and whatever the stores hold. -/
theorem outcome_runTokens_attach {parentNode childNode : Node R}
    (hparent : dispatcher.grammar.nodes[parent]? = some parentNode)
    (hchild : dispatcher.grammar.nodes[child]? = some childNode)
    (hdone : (dispatcher.perform (.attach (.stored parent) (.stored child))).response = .done)
    (hcapture : ¬ (parentNode.isCapturing = true ∧ childNode.isCapturing = true))
    (tokens : List String)
    (hunused : ∀ (i : Nat) (next : String),
      dispatcher.resolve (tokens.take (i + 1)) = .stored parent → tokens[i + 1]? = some next →
        next ≠ childNode.name ∧
          (childNode.name = wildcard → parentNode.child? next ≠ none)) :
    ((dispatcher.perform (.attach (.stored parent) (.stored child))).dispatcher.runTokens
        tokens).outcome =
      (dispatcher.runTokens tokens).outcome := by
  have hname : dispatcher.grammar.nameAt child = childNode.name := by
    simp only [Grammar.nameAt, hchild]
  have hstores : (dispatcher.grammar.link parent childNode.name child).1.stores =
      dispatcher.grammar.stores := by
    refine Grammar.stores_link_of_unifiedAt (fun own other hown hother => ?_) _
    rw [Grammar.storeAt, hparent, Option.bind_some] at hown
    rw [Grammar.storeAt, hchild, Option.bind_some] at hother
    exact absurd ⟨by simp [Node.isCapturing, hown], by simp [Node.isCapturing, hother]⟩ hcapture
  rw [dispatcher_perform_attach hdone, hname]
  cases tokens with
  | nil => rfl
  | cons first rest =>
      -- Every token meets the same before and after, as it does not use the edge.
      have halong : dispatcher.grammar.AgreeAlong
          (dispatcher.grammar.link parent childNode.name child).1 (dispatcher.entry first) rest :=
        fun i token htoken => Grammar.agreeAt_link hparent hstores fun hnode =>
          hunused i token hnode htoken
      have hcaptured : ∀ store, dispatcher.grammar.captured store =
          (dispatcher.grammar.link parent childNode.name child).1.captured store := by
        intro store
        rw [Grammar.captured, Grammar.captured, hstores]
      refine Eq.symm (outcome_eq_of_agreeAlong rfl halong hcaptured ?_)
      exact (Grammar.action?_link _).symm

end Attach

/-- The dispatcher for commands such as `use alice show`, with a wildcard node to attach. -/
def nameShowerWithSpare : Dispatcher (List String) :=
  nameShower.afterAll [.build (.executable wildcard fun _ => ["spare"])]

/-- Below the wildcard child of `use`, the token `show` has a child of its own. A wildcard node
that is attached there therefore changes nothing for `use alice show`, though it does for
`use alice hide`. -/
theorem outcome_runTokens_attach_use_alice_show :
    let attached := nameShowerWithSpare.perform (.attach (.stored 1) (.stored 3))
    attached.response = .done ∧
      (attached.dispatcher.runTokens ["use", "alice", "show"]).outcome =
        (nameShowerWithSpare.runTokens ["use", "alice", "show"]).outcome ∧
      (nameShowerWithSpare.runTokens ["use", "alice", "show"]).outcome = .executed ["alice"] ∧
      (attached.dispatcher.runTokens ["use", "alice", "hide"]).outcome = .executed ["spare"] := by
  have hparent : nameShowerWithSpare.grammar.nodes[1]? =
      some nameShowerWithSpare.grammar.nodes[1] :=
    Array.getElem?_eq_getElem (by decide)
  have hchild : nameShowerWithSpare.grammar.nodes[3]? = some nameShowerWithSpare.grammar.nodes[3] :=
    Array.getElem?_eq_getElem (by decide)
  have hdone : (nameShowerWithSpare.perform (.attach (.stored 1) (.stored 3))).response = .done :=
    perform_attach_done_iff.mpr ⟨by decide, _, hparent, by decide⟩
  refine ⟨hdone, ?_, by decide, by decide⟩
  apply outcome_runTokens_attach hparent hchild hdone (by decide)
  intro i next hreaches hnext
  match i with
  | 0 => exact absurd hreaches (by decide)
  | 1 =>
    obtain rfl : "show" = next := by simpa using hnext
    decide
  | i + 2 => simp at hnext

end Dispatcher

end CommandGrammar
