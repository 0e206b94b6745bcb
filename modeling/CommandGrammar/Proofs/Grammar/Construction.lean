import CommandGrammar.Proofs.Grammar.Reachability
import CommandGrammar.Proofs.Store.Drained
import CommandGrammar.Template.Select

/-! # How grammars grow

Every operation that builds a grammar is a sequence of three steps: a store is created, a node
without children is added, or an edge is drawn between stored nodes. What these steps preserve is
preserved by building, attaching and the templates, however many children they are given.
-/

namespace CommandGrammar

variable {R : Type}

namespace Node

/-- The node has the same wildcard child under the wildcard key and in its own slot. -/
def WildcardMirrored (node : Node R) : Prop := node.wildcardChild = node.child? wildcard

theorem kind_eq_branch_iff {node : Node R} :
    node.kind = .branch ↔ node.isExecutable = false ∧ node.isCapturing = false := by
  unfold kind
  cases node.isExecutable <;> cases node.isCapturing <;> simp

theorem child?_insertChild (node : Node R) (key : String) (index : Nat) (other : String) :
    (node.insertChild key index).child? other =
      if key = other then some index else node.child? other := by
  simp only [child?, insertChild, Std.ExtTreeMap.getElem?_insert, Std.compare_eq_iff_eq]

theorem WildcardMirrored.insertChild {node : Node R} (hmirrored : node.WildcardMirrored)
    (key : String) (index : Nat) : (node.insertChild key index).WildcardMirrored := by
  rw [WildcardMirrored, child?_insertChild, ← hmirrored]
  rfl

end Node

/-- The node that a description gives rise to, before any child is wired. -/
def NodeSpec.bare (spec : NodeSpec R) (store : Option StoreRef) : Node R :=
  { name := spec.name, help := spec.help, aliasName := spec.aliasName, store,
    action := spec.action }

namespace Grammar

variable (grammar : Grammar R)

/-! ## Edges -/

theorem nodes_link (parent : Nat) (key : String) (child : Nat) :
    (grammar.link parent key child).1.nodes =
      grammar.nodes.modify parent (·.insertChild key child) := by
  apply Array.ext_getElem?
  intro index
  cases hparent : grammar.nodes[parent]? with
  | none =>
      by_cases hindex : parent = index
      · simp [link, ← hindex, hparent, Array.getElem?_modify]
      · simp [link, hparent, hindex, Array.getElem?_modify]
  | some node =>
      have hbound := (Array.getElem?_eq_some_iff.mp hparent).1
      by_cases hindex : parent = index
      · subst hindex
        rw [Array.getElem?_modify, hparent]
        simp only [link, hparent]
        simp [hbound]
      · simp [link, hparent, hindex, Array.getElem?_modify]

theorem getElem?_nodes_link_self {grammar : Grammar R} {parent child : Nat} {key : String}
    {node : Node R} (hparent : grammar.nodes[parent]? = some node) :
    (grammar.link parent key child).1.nodes[parent]? = some (node.insertChild key child) := by
  rw [nodes_link, Array.getElem?_modify, if_pos rfl, hparent, Option.map_some]

/-- An edge between two capturing nodes unifies their stores, any other edge leaves the stores
alone. -/
theorem stores_link (parent : Nat) (key : String) (child : Nat) :
    (grammar.link parent key child).1.stores =
      match grammar.storeAt parent, grammar.storeAt child with
      | some parentStore, some childStore => (grammar.stores.unify parentStore childStore).2
      | _, _ => grammar.stores := by
  unfold link storeAt
  cases hparent : grammar.nodes[parent]? with
  | none => rfl
  | some node =>
      cases hown : node.store with
      | none => simp [hown]
      | some own => cases grammar.nodes[child]?.bind (·.store) <;> simp [hown]

theorem contains_stores_link (parent : Nat) (key : String) (child : Nat) (store : StoreRef) :
    (grammar.link parent key child).1.stores.contains store = grammar.stores.contains store := by
  rw [stores_link]
  split
  · exact StoreTable.contains_unify ..
  · rfl

theorem size_link (parent : Nat) (key : String) (child : Nat) :
    (grammar.link parent key child).1.nodes.size = grammar.nodes.size := by
  rw [nodes_link, Array.size_modify]

/-! ## Steps of construction -/

/-- One step of construction. -/
inductive Grows : Grammar R → Grammar R → Prop
  | store (grammar : Grammar R) : Grows grammar grammar.newStore.2
  | node (grammar : Grammar R) (spec : NodeSpec R) (store : Option StoreRef)
      (hstore : ∀ own, store = some own → grammar.stores.contains own = true) :
      Grows grammar { grammar with nodes := grammar.nodes.push (spec.bare store) }
  | edge (grammar : Grammar R) (parent : Nat) (key : String) (child : Nat)
      (hparent : parent < grammar.nodes.size) (hchild : child < grammar.nodes.size) :
      Grows grammar (grammar.link parent key child).1

/-- Construction takes no store back. -/
theorem Grows.contains {before after : Grammar R} (hgrows : Grows before after) {store : StoreRef}
    (hstore : before.stores.contains store = true) : after.stores.contains store = true := by
  cases hgrows with
  | store => exact StoreTable.contains_create_of_contains hstore
  | node => exact hstore
  | edge parent key child => rwa [contains_stores_link]

theorem contains_of_steps {before after : Grammar R}
    (hsteps : Relation.ReflTransGen Grows before after) {store : StoreRef}
    (hstore : before.stores.contains store = true) : after.stores.contains store = true := by
  induction hsteps with
  | refl => exact hstore
  | tail _ hstep ih => exact hstep.contains ih

/-- Steps of construction in a row, with the edges that they draw, in order and as places. -/
inductive Draws : Grammar R → List (Nat × Nat) → Grammar R → Prop
  | refl (grammar : Grammar R) : Draws grammar [] grammar
  | store (grammar : Grammar R) : Draws grammar [] grammar.newStore.2
  | node (grammar : Grammar R) (spec : NodeSpec R) (store : Option StoreRef)
      (hstore : ∀ own, store = some own → grammar.stores.contains own = true) :
      Draws grammar [] { grammar with nodes := grammar.nodes.push (spec.bare store) }
  | edge (grammar : Grammar R) (parent : Nat) (key : String) (child : Nat)
      (hparent : parent < grammar.nodes.size) (hchild : child < grammar.nodes.size) :
      Draws grammar [(parent, child)] (grammar.link parent key child).1
  | trans {first second third : Grammar R} {edges more : List (Nat × Nat)}
      (hfirst : Draws first edges second) (hsecond : Draws second more third) :
      Draws first (edges ++ more) third

/-- What is drawn in a row is drawn step by step. -/
theorem Draws.grows {before after : Grammar R} {edges : List (Nat × Nat)}
    (hdraws : Draws before edges after) : Relation.ReflTransGen Grows before after := by
  induction hdraws with
  | refl grammar => exact .refl
  | store grammar => exact .single (.store grammar)
  | node grammar spec store hstore => exact .single (.node grammar spec store hstore)
  | edge grammar parent key child hparent hchild =>
      exact .single (.edge grammar parent key child hparent hchild)
  | trans _ _ ihFirst ihSecond => exact ihFirst.trans ihSecond

theorem place?_eq_some_iff {grammar : Grammar R} {node : NodeRef} {index : Nat} :
    grammar.place? node = some index ↔ node = .stored index ∧ index < grammar.nodes.size := by
  cases node with
  | notFound => simp [place?]
  | stored place =>
      simp only [place?, Option.ite_none_right_eq_some, Option.some.injEq, NodeRef.stored.injEq]
      constructor
      · rintro ⟨hbound, rfl⟩
        exact ⟨rfl, hbound⟩
      · rintro ⟨rfl, hbound⟩
        exact ⟨hbound, rfl⟩

/-- Handles are all known if they are the handles of places of the table. -/
theorem places_eq_ok_iff {grammar : Grammar R} {nodes : List NodeRef} {indices : List Nat} :
    grammar.places nodes = .ok indices ↔
      nodes = indices.map .stored ∧ ∀ index ∈ indices, index < grammar.nodes.size := by
  induction nodes generalizing indices with
  | nil => cases indices <;> simp [places]
  | cons node rest ih =>
      constructor
      · intro hplaces
        unfold places at hplaces
        cases hplace : grammar.place? node with
        | none => simp [hplace] at hplaces
        | some index =>
            cases hrest : grammar.places rest with
            | error fault => simp [hplace, hrest, Except.map] at hplaces
            | ok others =>
                obtain rfl : index :: others = indices := by
                  simpa [hplace, hrest, Except.map] using hplaces
                obtain ⟨rfl, hbound⟩ := place?_eq_some_iff.mp hplace
                obtain ⟨rfl, hbounds⟩ := ih.mp hrest
                exact ⟨rfl, List.forall_mem_cons.mpr ⟨hbound, hbounds⟩⟩
      · rintro ⟨hnodes, hbounds⟩
        cases indices with
        | nil => simp at hnodes
        | cons index others =>
            obtain ⟨rfl, rfl⟩ := List.cons.inj hnodes
            obtain ⟨hbound, hothers⟩ := List.forall_mem_cons.mp hbounds
            have hplace := place?_eq_some_iff.mpr ⟨rfl, hbound⟩
            rw [places, hplace, ih.mpr ⟨rfl, hothers⟩]
            rfl

theorem places_lt {grammar : Grammar R} {nodes : List NodeRef} {indices : List Nat}
    (hplaces : grammar.places nodes = .ok indices) :
    ∀ index ∈ indices, index < grammar.nodes.size := (places_eq_ok_iff.mp hplaces).2

/-- The edges from a node to others; handles that name no place have none. -/
def edgesFrom (parent : NodeRef) (children : List NodeRef) : List (Nat × Nat) :=
  (knownPlaces [parent]).flatMap fun source => (knownPlaces children).map (source, ·)

theorem edgesFrom_stored (parent : Nat) (children : List NodeRef) :
    edgesFrom (.stored parent) children = (knownPlaces children).map (parent, ·) := by
  simp [edgesFrom, knownPlaces]

/-- Handles that are all known name the places that were found. -/
theorem knownPlaces_of_places {grammar : Grammar R} {nodes : List NodeRef} {indices : List Nat}
    (hplaces : grammar.places nodes = .ok indices) : knownPlaces nodes = indices := by
  obtain ⟨rfl, _⟩ := places_eq_ok_iff.mp hplaces
  rw [knownPlaces, List.filterMap_map]
  exact List.filterMap_some

theorem linkAll_draws {grammar : Grammar R} {parent : Nat} {children : List (String × Nat)}
    (hparent : parent < grammar.nodes.size)
    (hchildren : ∀ entry ∈ children, entry.2 < grammar.nodes.size) :
    Draws grammar (children.map fun entry => (parent, entry.2))
      (grammar.linkAll parent children).1 := by
  induction children generalizing grammar with
  | nil => exact .refl grammar
  | cons entry rest ih =>
      obtain ⟨key, child⟩ := entry
      obtain ⟨hchild, hrest⟩ := List.forall_mem_cons.mp hchildren
      have hsize := grammar.size_link parent key child
      exact (Draws.edge grammar parent key child hparent hchild).trans
        (ih (hsize ▸ hparent) (fun entry hentry => hsize ▸ hrest entry hentry))

theorem linkNamed_draws {grammar : Grammar R} {parent : Nat} {children : List Nat}
    (hparent : parent < grammar.nodes.size)
    (hchildren : ∀ child ∈ children, child < grammar.nodes.size) :
    Draws grammar (children.map (parent, ·)) (grammar.linkNamed parent children).1 := by
  have hentries : ∀ entry ∈ children.map fun child => (grammar.nameAt child, child),
      entry.2 < grammar.nodes.size := by
    intro entry hentry
    obtain ⟨child, hchild, rfl⟩ := List.mem_map.mp hentry
    exact hchildren child hchild
  have hdraws := linkAll_draws hparent hentries
  rwa [List.map_map] at hdraws

/-- What successfully finding the store of a node to be built consists of. -/
theorem resolveTarget_eq_ok {grammar : Grammar R} {target : CaptureTarget}
    {store : Option StoreRef} {stores : StoreTable}
    (htarget : grammar.resolveTarget target = .ok (store, stores)) :
    (target = .nowhere ∧ store = none ∧ stores = grammar.stores) ∨
      (target = .fresh ∧ store = some grammar.stores.create.1 ∧
        stores = grammar.stores.create.2) ∨
      ∃ existing, target = .into existing ∧ grammar.stores.contains existing = true ∧
        store = some existing ∧ stores = grammar.stores := by
  cases target with
  | nowhere =>
      obtain ⟨rfl, rfl⟩ : none = store ∧ grammar.stores = stores := by
        simpa [resolveTarget] using htarget
      exact .inl ⟨rfl, rfl, rfl⟩
  | fresh =>
      obtain ⟨rfl, rfl⟩ : some grammar.stores.create.1 = store ∧
          grammar.stores.create.2 = stores := by
        simpa [resolveTarget] using htarget
      exact .inr (.inl ⟨rfl, rfl, rfl⟩)
  | into existing =>
      by_cases hcontains : grammar.stores.contains existing = true
      · obtain ⟨rfl, rfl⟩ : some existing = store ∧ grammar.stores = stores := by
          simpa [resolveTarget, hcontains] using htarget
        exact .inr (.inr ⟨existing, rfl, hcontains, rfl, rfl⟩)
      · simp [resolveTarget, hcontains] at htarget

/-- The store of a node to be built is known by the time the node is added. -/
theorem resolveTarget_draws {grammar : Grammar R} {target : CaptureTarget}
    {store : Option StoreRef} {stores : StoreTable}
    (htarget : grammar.resolveTarget target = .ok (store, stores)) :
    Draws grammar [] { grammar with stores } ∧
      ∀ own, store = some own → stores.contains own = true := by
  obtain ⟨-, rfl, rfl⟩ | ⟨-, rfl, rfl⟩ | ⟨existing, -, hcontains, rfl, rfl⟩ :=
    resolveTarget_eq_ok htarget
  · exact ⟨.refl grammar, by simp⟩
  · refine ⟨.store grammar, ?_⟩
    rintro own ⟨⟩
    simp [StoreTable.create, StoreTable.contains]
  · refine ⟨.refl grammar, ?_⟩
    rintro own ⟨⟩
    exact hcontains

/-- With known children and a store, the node is put at the end and then wired. -/
theorem build_of_places {grammar : Grammar R} {spec : NodeSpec R} {children : List Nat}
    {store : Option StoreRef} {stores : StoreTable}
    (hplaces : grammar.places spec.children = .ok children)
    (htarget : grammar.resolveTarget spec.target = .ok (store, stores)) :
    let linked := linkNamed ⟨grammar.nodes.push (spec.bare store), stores⟩ grammar.nodes.size
      children
    grammar.build spec = .ok ⟨.stored grammar.nodes.size, linked.1,
      linked.2 ++ [.builtNode (.stored grammar.nodes.size) spec.name]⟩ := by
  simp only [build, hplaces, htarget, bind, Except.bind]
  rfl

/-- What a successful build consists of. -/
theorem build_eq_ok {grammar : Grammar R} {spec : NodeSpec R} {change : Change R NodeRef}
    (hbuild : grammar.build spec = .ok change) :
    ∃ children store stores, grammar.places spec.children = .ok children ∧
      grammar.resolveTarget spec.target = .ok (store, stores) ∧
      let linked := linkNamed ⟨grammar.nodes.push (spec.bare store), stores⟩ grammar.nodes.size
        children
      change = ⟨.stored grammar.nodes.size, linked.1,
        linked.2 ++ [.builtNode (.stored grammar.nodes.size) spec.name]⟩ := by
  unfold build at hbuild
  cases hplaces : grammar.places spec.children with
  | error fault => simp [hplaces, bind, Except.bind] at hbuild
  | ok children =>
      cases htarget : grammar.resolveTarget spec.target with
      | error fault => simp [hplaces, htarget, bind, Except.bind] at hbuild
      | ok resolved =>
          obtain ⟨store, stores⟩ := resolved
          refine ⟨children, store, stores, rfl, rfl, ?_⟩
          simp only [hplaces, htarget, bind, Except.bind, Except.ok.injEq] at hbuild
          exact hbuild.symm

/-- A node that is built has an edge to each of its children. -/
theorem build_draws {grammar : Grammar R} {spec : NodeSpec R} {change : Change R NodeRef}
    (hbuild : grammar.build spec = .ok change) :
    Draws grammar (edgesFrom change.value spec.children) change.grammar := by
  obtain ⟨children, store, stores, hplaces, htarget, rfl⟩ := build_eq_ok hbuild
  obtain ⟨hstores, hcontains⟩ := resolveTarget_draws htarget
  -- First the store if one is asked for, then the node, then one edge after the other.
  have hnode := Draws.node { grammar with stores } spec store hcontains
  rw [edgesFrom_stored, knownPlaces_of_places hplaces]
  refine (hstores.trans hnode).trans (linkNamed_draws (by simp) ?_)
  intro child hchild
  have hlt := places_lt hplaces child hchild
  simp only [Array.size_push]
  omega

theorem attach_of_open {grammar : Grammar R} {parent child : Nat} {node : Node R}
    (hparent : grammar.nodes[parent]? = some node) (hopen : node.isExecutable = false)
    (hchild : child < grammar.nodes.size) :
    let linked := grammar.link parent (grammar.nameAt child) child
    grammar.attach (.stored parent) (.stored child) = .ok ⟨(), linked.1, linked.2⟩ := by
  have hplace := place?_eq_some_iff.mpr ⟨rfl, hchild⟩
  simp only [attach, hplace, hparent, hopen, Bool.false_eq_true, if_false]

/-- What successfully attaching a child consists of. -/
theorem attach_eq_ok {grammar : Grammar R} {parent child : NodeRef} {change : Change R Unit}
    (hattach : grammar.attach parent child = .ok change) :
    (parent = .notFound ∧ change = ⟨(), grammar, []⟩) ∨
      ∃ parentIndex childIndex node, parent = .stored parentIndex ∧
        grammar.place? child = some childIndex ∧ grammar.nodes[parentIndex]? = some node ∧
        node.isExecutable = false ∧
        let linked := grammar.link parentIndex (grammar.nameAt childIndex) childIndex
        change = ⟨(), linked.1, linked.2⟩ := by
  unfold attach at hattach
  cases parent with
  | notFound => exact .inl ⟨rfl, (Except.ok.inj hattach).symm⟩
  | stored parentIndex =>
      cases hchild : grammar.place? child with
      | none => simp [hchild] at hattach
      | some childIndex =>
          cases hparent : grammar.nodes[parentIndex]? with
          | none => simp [hchild, hparent] at hattach
          | some node =>
              cases hexecutable : node.isExecutable with
              | true => simp [hchild, hparent, hexecutable] at hattach
              | false =>
                  simp only [hchild, hparent, hexecutable, Bool.false_eq_true, if_false] at hattach
                  exact .inr ⟨parentIndex, childIndex, node, rfl, rfl, hparent, hexecutable,
                    (Except.ok.inj hattach).symm⟩

/-- What successfully attaching several children consists of. -/
theorem attachMany_eq_ok {grammar : Grammar R} {parent : NodeRef}
    {children : List (String × NodeRef)} {change : Change R Unit}
    (hattach : grammar.attachMany parent children = .ok change) :
    (parent = .notFound ∧ change = ⟨(), grammar, []⟩) ∨
      ∃ parentIndex node indices, parent = .stored parentIndex ∧
        grammar.nodes[parentIndex]? = some node ∧ node.isExecutable = false ∧
        node.isCapturing = false ∧ grammar.places (children.map (·.2)) = .ok indices ∧
        let linked := grammar.linkAll parentIndex ((children.map (·.1)).zip indices)
        change = ⟨(), linked.1, linked.2⟩ := by
  unfold attachMany at hattach
  cases parent with
  | notFound => exact .inl ⟨rfl, (Except.ok.inj hattach).symm⟩
  | stored parentIndex =>
      cases hparent : grammar.nodes[parentIndex]? with
      | none => simp [hparent] at hattach
      | some node =>
          cases hexecutable : node.isExecutable with
          | true => simp [hparent, hexecutable] at hattach
          | false =>
              cases hcapturing : node.isCapturing with
              | true => simp [hparent, hexecutable, hcapturing] at hattach
              | false =>
                  cases hplaces : grammar.places (children.map (·.2)) with
                  | error fault => simp [hparent, hexecutable, hcapturing, hplaces] at hattach
                  | ok indices =>
                      simp only [hparent, hexecutable, hcapturing, hplaces, Bool.false_eq_true,
                        if_false] at hattach
                      exact .inr ⟨parentIndex, node, indices, rfl, hparent, hexecutable,
                        hcapturing, rfl, (Except.ok.inj hattach).symm⟩

theorem attach_draws {grammar : Grammar R} {parent child : NodeRef} {change : Change R Unit}
    (hattach : grammar.attach parent child = .ok change) :
    Draws grammar (edgesFrom parent [child]) change.grammar := by
  obtain ⟨rfl, rfl⟩ | ⟨parentIndex, childIndex, node, rfl, hchild, hparent, _, rfl⟩ :=
    attach_eq_ok hattach
  · exact .refl grammar
  · obtain ⟨rfl, hlt⟩ := place?_eq_some_iff.mp hchild
    rw [edgesFrom_stored]
    exact .edge grammar parentIndex _ childIndex (Array.getElem?_eq_some_iff.mp hparent).1 hlt

theorem attachMany_draws {grammar : Grammar R} {parent : NodeRef}
    {children : List (String × NodeRef)} {change : Change R Unit}
    (hattach : grammar.attachMany parent children = .ok change) :
    Draws grammar (edgesFrom parent (children.map (·.2))) change.grammar := by
  obtain ⟨rfl, rfl⟩ | ⟨parentIndex, node, indices, rfl, hparent, _, _, hplaces, rfl⟩ :=
    attachMany_eq_ok hattach
  · exact .refl grammar
  · have hlength : ((children.map (·.1)).zip indices).map (·.2) = indices := by
      refine List.map_snd_zip ?_
      have hnodes := congrArg List.length (places_eq_ok_iff.mp hplaces).1
      simpa using Nat.le_of_eq hnodes.symm
    have hdraws := linkAll_draws (Array.getElem?_eq_some_iff.mp hparent).1
      fun entry (hentry : entry ∈ (children.map (·.1)).zip indices) =>
        places_lt hplaces entry.2 (List.of_mem_zip hentry).2
    rw [edgesFrom_stored, knownPlaces_of_places hplaces]
    conv => arg 2; rw [← hlength, List.map_map]
    exact hdraws

end Grammar

namespace Select

open Grammar

/-- The edges drawn while nodes are added, those before a node that cannot be built included. -/
def edgesBuilt (grammar : Grammar R) : List (NodeSpec R) → List (Nat × Nat)
  | [] => []
  | spec :: rest =>
    match grammar.build spec with
    | .error _ => []
    | .ok built => edgesFrom built.value spec.children ++ edgesBuilt built.grammar rest

/-- The edges drawn while the template is added. -/
def edgesInstalled (grammar : Grammar R) (store : StoreRef) (callbacks : List (Callback R)) :
    List (Nat × Nat) :=
  match Callbacks.ofList? callbacks with
  | none => []
  | some callbacks => edgesBuilt grammar (specs store callbacks grammar.size)

theorem buildAll_draws (grammar : Grammar R) (specs : List (NodeSpec R)) :
    Draws grammar (edgesBuilt grammar specs) (buildAll grammar specs).grammar := by
  induction specs generalizing grammar with
  | nil => exact .refl grammar
  | cons spec rest ih =>
      unfold buildAll edgesBuilt
      cases hbuild : grammar.build spec with
      | error fault => exact .refl grammar
      | ok built => exact (build_draws hbuild).trans (ih built.grammar)

theorem install_draws (grammar : Grammar R) (store : StoreRef) (callbacks : List (Callback R)) :
    Draws grammar (edgesInstalled grammar store callbacks)
      (install grammar store callbacks).grammar := by
  unfold install edgesInstalled
  cases Callbacks.ofList? callbacks with
  | none => exact .refl grammar
  | some callbacks => exact buildAll_draws grammar _

end Select

end CommandGrammar
