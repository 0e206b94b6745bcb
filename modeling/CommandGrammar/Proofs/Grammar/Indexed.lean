import CommandGrammar.Proofs.Grammar.Construction
import CommandGrammar.Proofs.Store.Forest
import CommandGrammar.Session

/-! # Construction with unguarded look-ups

Wiring reads and writes places of the two tables without asking whether they are there. Here is
every operation once more in a form that stops at the first place that is missing. It never stops
and does what the operation does, whatever grammar it is given and whatever handles: what is
wired was looked up before, and what is unified was resolved before.
-/

namespace CommandGrammar

variable {R : Type}

/-- Unification with unguarded places: the list of the child's root is taken out and a redirection
left behind, and then the list of the parent's root is extended. -/
def StoreTable.unifyIndexed (table : StoreTable) (parent child : StoreRef) :
    Option (Option StoreRef × StoreTable) :=
  match table.resolve parent, table.resolve child with
  | some parentRoot, some childRoot =>
    if parentRoot = childRoot then some (some parentRoot, table)
    else do
      let moved ← table.slots[childRoot.index]?
      let redirected := table.slots.setIfInBounds childRoot.index (.merged parentRoot)
      let kept ← redirected[parentRoot.index]?
      let extended : StoreSlot :=
        match kept, moved with
        | .owned values, .owned more => .owned (values ++ more)
        | kept, _ => kept
      some (some parentRoot, ⟨redirected.setIfInBounds parentRoot.index extended⟩)
  | _, _ => some (none, table)

theorem StoreTable.unifyIndexed_eq (table : StoreTable) (parent child : StoreRef) :
    table.unifyIndexed parent child = some (table.unify parent child) := by
  unfold unifyIndexed
  split
  next parentRoot childRoot hparent hchild =>
    split
    next hsame =>
      rw [table.unify_of_same hparent (hsame ▸ hchild)]
    next hroots =>
      have hindex : childRoot.index ≠ parentRoot.index := mt StoreRef.index_inj.mp (Ne.symm hroots)
      have hparentSlot := values_of_resolve hparent
      have hchildSlot := values_of_resolve hchild
      have hslots := slots_unify hparent hchild hroots
      have hroot := unify_fst hparent hchild
      simp only [hchildSlot, Array.getElem?_setIfInBounds_ne hindex, hparentSlot,
        Option.bind_eq_bind, Option.bind_some, Option.some.injEq]
      refine Prod.ext hroot.symm (congrArg StoreTable.mk (Array.ext_getElem? fun place => ?_))
      have hparentBound := lt_size_of_resolve (resolve_root hparent)
      have hchildBound := lt_size_of_resolve (resolve_root hchild)
      rw [hslots]
      simp only [Array.getElem?_setIfInBounds, Array.size_setIfInBounds, hparentBound,
        hchildBound, if_true]
      grind
  next hunknown =>
    rw [unify_of_unknown]
    cases hparent : table.resolve parent with
    | none => exact .inl rfl
    | some parentRoot =>
        cases hchild : table.resolve child with
        | none => exact .inr rfl
        | some childRoot => exact absurd hchild (hunknown parentRoot childRoot hparent)

namespace Grammar

/-- Drawing an edge with unguarded places. -/
def linkIndexed (grammar : Grammar R) (parent : Nat) (key : String) (child : Nat) :
    Option (Grammar R × Trace) := do
  let parentNode ← grammar.nodes[parent]?
  let childNode ← grammar.nodes[child]?
  let stores ←
    match parentNode.store, childNode.store with
    | some parentStore, some childStore =>
      (grammar.stores.unifyIndexed parentStore childStore).map (·.2)
    | _, _ => some grammar.stores
  let trace :=
    match parentNode.child? key with
    | some previous =>
      if previous = child then []
      else [Event.replacedChild parentNode.name (.stored previous) (.stored child)]
    | none => []
  some (⟨grammar.nodes.setIfInBounds parent (parentNode.insertChild key child), stores⟩, trace)

/-- Drawing edges under given keys with unguarded places. -/
def linkAllIndexed (grammar : Grammar R) (parent : Nat) :
    List (String × Nat) → Option (Grammar R × Trace)
  | [] => some (grammar, [])
  | (key, child) :: rest => do
    let (linked, trace) ← grammar.linkIndexed parent key child
    let (final, more) ← linked.linkAllIndexed parent rest
    some (final, trace ++ more)

/-- Drawing edges under the names of the children, each of which is read when its turn comes. -/
def linkNamedIndexed (grammar : Grammar R) (parent : Nat) : List Nat → Option (Grammar R × Trace)
  | [] => some (grammar, [])
  | child :: rest => do
    let childNode ← grammar.nodes[child]?
    let (linked, trace) ← grammar.linkIndexed parent childNode.name child
    let (final, more) ← linked.linkNamedIndexed parent rest
    some (final, trace ++ more)

theorem linkIndexed_eq {grammar : Grammar R} {parent child : Nat}
    (hparent : parent < grammar.nodes.size) (hchild : child < grammar.nodes.size) (key : String) :
    grammar.linkIndexed parent key child = some (grammar.link parent key child) := by
  have hparentNode := Array.getElem?_eq_getElem hparent
  have hchildNode := Array.getElem?_eq_getElem hchild
  simp only [linkIndexed, link, storeAt, hparentNode, hchildNode, Option.bind_eq_bind,
    Option.bind_some, StoreTable.unifyIndexed_eq, Option.map_some]
  cases grammar.nodes[parent].store <;> cases grammar.nodes[child].store <;> rfl

theorem linkAllIndexed_eq {grammar : Grammar R} {parent : Nat} {children : List (String × Nat)}
    (hparent : parent < grammar.nodes.size)
    (hchildren : ∀ entry ∈ children, entry.2 < grammar.nodes.size) :
    grammar.linkAllIndexed parent children = some (grammar.linkAll parent children) := by
  induction children generalizing grammar with
  | nil => rfl
  | cons entry rest ih =>
      obtain ⟨key, child⟩ := entry
      obtain ⟨hchild, hrest⟩ := List.forall_mem_cons.mp hchildren
      have hsize := grammar.size_link parent key child
      have hfinal := ih (hsize ▸ hparent) (fun entry hentry => hsize ▸ hrest entry hentry)
      simp only [linkAllIndexed, linkAll, linkIndexed_eq hparent hchild, Option.bind_eq_bind,
        Option.bind_some, hfinal]

/-- Edges do not change names. -/
theorem nameAt_link (grammar : Grammar R) (parent : Nat) (key : String) (child index : Nat) :
    (grammar.link parent key child).1.nameAt index = grammar.nameAt index := by
  simp only [nameAt, nodes_link, Array.getElem?_modify]
  by_cases hindex : parent = index
  · rw [if_pos hindex]
    cases grammar.nodes[index]? <;> rfl
  · rw [if_neg hindex]

/-- The names that are read before the first edge are those read as the edges are drawn. -/
theorem linkNamed_cons (grammar : Grammar R) (parent child : Nat) (rest : List Nat) :
    let linked := grammar.link parent (grammar.nameAt child) child
    let final := linked.1.linkNamed parent rest
    grammar.linkNamed parent (child :: rest) = (final.1, linked.2 ++ final.2) := by
  simp only [linkNamed, List.map_cons, linkAll, nameAt_link]

theorem linkNamedIndexed_eq {grammar : Grammar R} {parent : Nat} {children : List Nat}
    (hparent : parent < grammar.nodes.size)
    (hchildren : ∀ child ∈ children, child < grammar.nodes.size) :
    grammar.linkNamedIndexed parent children = some (grammar.linkNamed parent children) := by
  induction children generalizing grammar with
  | nil => rfl
  | cons child rest ih =>
      obtain ⟨hchild, hrest⟩ := List.forall_mem_cons.mp hchildren
      have hchildNode := Array.getElem?_eq_getElem hchild
      have hname : grammar.nameAt child = grammar.nodes[child].name := by
        simp only [nameAt, hchildNode]
      have hsize := grammar.size_link parent grammar.nodes[child].name child
      have hfinal := ih (hsize ▸ hparent) (fun entry hentry => hsize ▸ hrest entry hentry)
      simp only [linkNamedIndexed, linkNamed_cons, hchildNode, linkIndexed_eq hparent hchild,
        Option.bind_eq_bind, Option.bind_some, hfinal, hname]

/-- Adding a node with unguarded places. -/
def buildIndexed (grammar : Grammar R) (spec : NodeSpec R) :
    Option (Except Error (Change R NodeRef)) :=
  match grammar.places spec.children with
  | .error fault => some (.error fault)
  | .ok children =>
    match grammar.resolveTarget spec.target with
    | .error fault => some (.error fault)
    | .ok (store, stores) => do
      let index := grammar.nodes.size
      let (wired, trace) ←
        linkNamedIndexed ⟨grammar.nodes.push (spec.bare store), stores⟩ index children
      some (.ok ⟨.stored index, wired, trace ++ [.builtNode (.stored index) spec.name]⟩)

theorem buildIndexed_eq (grammar : Grammar R) (spec : NodeSpec R) :
    grammar.buildIndexed spec = some (grammar.build spec) := by
  unfold buildIndexed build
  cases hplaces : grammar.places spec.children with
  | error fault => rfl
  | ok children =>
      cases htarget : grammar.resolveTarget spec.target with
      | error fault => rfl
      | ok resolved =>
          obtain ⟨store, stores⟩ := resolved
          have hchildren : ∀ child ∈ children,
              child < (grammar.nodes.push (spec.bare store)).size := by
            intro child hchild
            have hlt := places_lt hplaces child hchild
            rw [Array.size_push]
            exact Nat.lt_succ_of_lt hlt
          have hparent : grammar.nodes.size <
              (⟨grammar.nodes.push (spec.bare store), stores⟩ : Grammar R).nodes.size := by simp
          have hwired := linkNamedIndexed_eq hparent hchildren
          simp only [hwired, Option.bind_eq_bind, Option.bind_some]
          rfl

/-- Attaching with unguarded places. -/
def attachIndexed (grammar : Grammar R) (parent child : NodeRef) :
    Option (Except Error (Change R Unit)) :=
  match parent with
  | .notFound => some (.ok ⟨(), grammar, []⟩)
  | .stored parentIndex =>
    match grammar.place? child with
    | none => some (.error (.unknownNode child))
    | some childIndex =>
      match grammar.nodes[parentIndex]? with
      | none => some (.error (.unknownNode parent))
      | some parentNode =>
        if parentNode.isExecutable then some (.error (.attachToExecutable parentNode.name))
        else do
          let childNode ← grammar.nodes[childIndex]?
          let (linked, trace) ← grammar.linkIndexed parentIndex childNode.name childIndex
          some (.ok ⟨(), linked, trace⟩)

theorem attachIndexed_eq (grammar : Grammar R) (parent child : NodeRef) :
    grammar.attachIndexed parent child = some (grammar.attach parent child) := by
  unfold attachIndexed attach
  cases parent with
  | notFound => rfl
  | stored parentIndex =>
      cases hplace : grammar.place? child with
      | none => rfl
      | some childIndex =>
          cases hparent : grammar.nodes[parentIndex]? with
          | none => simp [hparent]
          | some parentNode =>
              have hplaces : grammar.places [child] = .ok [childIndex] := by
                simp [places, hplace, Except.map]
              have hchild := places_lt hplaces childIndex (List.mem_singleton_self _)
              have hbound := (Array.getElem?_eq_some_iff.mp hparent).1
              by_cases hexecutable : parentNode.isExecutable = true
              · simp [hparent, hexecutable]
              · simp [hparent, hexecutable, nameAt, Array.getElem?_eq_getElem hchild,
                  linkIndexed_eq hbound hchild]

/-- Attaching several children with unguarded places. -/
def attachManyIndexed (grammar : Grammar R) (parent : NodeRef)
    (children : List (String × NodeRef)) : Option (Except Error (Change R Unit)) :=
  match parent with
  | .notFound => some (.ok ⟨(), grammar, []⟩)
  | .stored parentIndex =>
    match grammar.nodes[parentIndex]? with
    | none => some (.error (.unknownNode parent))
    | some parentNode =>
      if parentNode.isExecutable then some (.error (.attachToExecutable parentNode.name))
      else if parentNode.isCapturing then some (.error (.bulkAttachToCapturing parentNode.name))
      else
        match grammar.places (children.map (·.2)) with
        | .error fault => some (.error fault)
        | .ok indices => do
          let (linked, trace) ←
            grammar.linkAllIndexed parentIndex ((children.map (·.1)).zip indices)
          some (.ok ⟨(), linked, trace⟩)

theorem attachManyIndexed_eq (grammar : Grammar R) (parent : NodeRef)
    (children : List (String × NodeRef)) :
    grammar.attachManyIndexed parent children = some (grammar.attachMany parent children) := by
  unfold attachManyIndexed attachMany
  cases parent with
  | notFound => rfl
  | stored parentIndex =>
      cases hparent : grammar.nodes[parentIndex]? with
      | none => simp [hparent]
      | some parentNode =>
          by_cases hexecutable : parentNode.isExecutable = true
          · simp [hparent, hexecutable]
          · by_cases hcapturing : parentNode.isCapturing = true
            · simp [hparent, hexecutable, hcapturing]
            · cases hplaces : grammar.places (children.map (·.2)) with
              | error fault => simp [hparent, hexecutable, hcapturing]
              | ok indices =>
                  have hlinked := linkAllIndexed_eq (Array.getElem?_eq_some_iff.mp hparent).1
                    fun entry (hentry : entry ∈ (children.map (·.1)).zip indices) =>
                      places_lt hplaces entry.2 (List.of_mem_zip hentry).2
                  simp [hparent, hexecutable, hcapturing, hlinked]

end Grammar

namespace Select

/-- Adding nodes one after the other with unguarded places. -/
def buildAllIndexed (grammar : Grammar R) :
    List (NodeSpec R) → Option (Change R (Except Error Unit))
  | [] => some ⟨.ok (), grammar, []⟩
  | spec :: rest => do
    match ← grammar.buildIndexed spec with
    | .error fault => some ⟨.error fault, grammar, []⟩
    | .ok built =>
      let final ← buildAllIndexed built.grammar rest
      some ⟨final.value, final.grammar, built.trace ++ final.trace⟩

theorem buildAllIndexed_eq (grammar : Grammar R) (specs : List (NodeSpec R)) :
    buildAllIndexed grammar specs = some (buildAll grammar specs) := by
  induction specs generalizing grammar with
  | nil => rfl
  | cons spec rest ih =>
      simp only [buildAllIndexed, buildAll, Grammar.buildIndexed_eq, Option.bind_eq_bind,
        Option.bind_some]
      cases grammar.build spec with
      | error fault => rfl
      | ok built => simp only [ih, Option.bind_some]

/-- Adding the template with unguarded places. -/
def installIndexed (grammar : Grammar R) (store : StoreRef) (callbacks : List (Callback R)) :
    Option (Change R (Except Error NodeRef)) :=
  let ignored :=
    if callbackCount < callbacks.length then [Event.ignoredCallbacks callbacks.length] else []
  match Callbacks.ofList? callbacks with
  | none =>
    some ⟨.error (.missingCallback callbackCount callbacks.length), grammar, ignored⟩
  | some callbacks => do
    let base := grammar.size
    let built ← buildAllIndexed grammar (specs store callbacks base)
    some ⟨built.value.map fun _ => .stored (base + rootOffset), built.grammar,
      ignored ++ built.trace⟩

theorem installIndexed_eq (grammar : Grammar R) (store : StoreRef)
    (callbacks : List (Callback R)) :
    installIndexed grammar store callbacks = some (install grammar store callbacks) := by
  unfold installIndexed install
  cases Callbacks.ofList? callbacks with
  | none => rfl
  | some callbacks => simp only [buildAllIndexed_eq, Option.bind_eq_bind, Option.bind_some]

end Select

namespace Dispatcher

/-- The answer to a template that was added or refused. -/
def performInstalled (dispatcher : Dispatcher R)
    (installed : Change R (Except Error NodeRef)) : Performed R :=
  let response : Response R :=
    match installed.value with
    | .ok root => .node root
    | .error error => .refused error
  ⟨response, { dispatcher with grammar := installed.grammar }, installed.trace⟩

/-- One operation with unguarded places: those of construction index the tables directly, all
others ask whether a place is there. -/
def performIndexed (dispatcher : Dispatcher R) : Operation R → Option (Performed R)
  | .build spec =>
    (dispatcher.grammar.buildIndexed spec).map (dispatcher.performChange .node)
  | .attach parent child =>
    (dispatcher.grammar.attachIndexed parent child).map
      (dispatcher.performChange fun _ => .done)
  | .attachMany parent children =>
    (dispatcher.grammar.attachManyIndexed parent children).map
      (dispatcher.performChange fun _ => .done)
  | .installSelect store callbacks =>
    (Select.installIndexed dispatcher.grammar store callbacks).map dispatcher.performInstalled
  | operation => some (dispatcher.perform operation)

/-- No operation ever indexes a table at a place that is not there. -/
theorem performIndexed_eq (dispatcher : Dispatcher R) (operation : Operation R) :
    dispatcher.performIndexed operation = some (dispatcher.perform operation) := by
  cases operation with
  | build spec => rw [performIndexed, Grammar.buildIndexed_eq]; rfl
  | attach parent child => rw [performIndexed, Grammar.attachIndexed_eq]; rfl
  | attachMany parent children => rw [performIndexed, Grammar.attachManyIndexed_eq]; rfl
  | installSelect store callbacks => rw [performIndexed, Select.installIndexed_eq]; rfl
  | _ => rfl

end Dispatcher

end CommandGrammar
