import CommandGrammar.Proofs.Grammar.Indexed
import CommandGrammar.Proofs.Store.Forest

/-! # Nodes that share a store

A row of descriptions that capture into one existing store, and whose children come earlier in the
row, is built without fail. Its nodes are appended as they are described, and since an edge between
two of them unifies the store with itself, all stores stay as they were.
-/

namespace CommandGrammar

variable {R : Type}

/-- The existing store that a node to be built captures into. -/
def CaptureTarget.existing? : CaptureTarget → Option StoreRef
  | .into store => some store
  | _ => none

namespace Node

/-- The node with further children under the given keys, in order. -/
def wire (node : Node R) (children : List (String × Nat)) : Node R :=
  children.foldl (fun current entry => current.insertChild entry.1 entry.2) node

@[simp] theorem wire_nil (node : Node R) : node.wire [] = node := rfl

@[simp] theorem wire_cons (node : Node R) (entry : String × Nat) (rest : List (String × Nat)) :
    node.wire (entry :: rest) = (node.insertChild entry.1 entry.2).wire rest := rfl

variable (node : Node R) (children : List (String × Nat))

/-- Wiring changes the children and nothing else. -/
theorem exists_wire_eq : ∃ others slot,
    node.wire children = { node with children := others, wildcardChild := slot } := by
  induction children generalizing node with
  | nil => exact ⟨_, _, rfl⟩
  | cons entry rest ih =>
      obtain ⟨others, slot, hrest⟩ := ih (node.insertChild entry.1 entry.2)
      exact ⟨others, slot, hrest⟩

@[simp] theorem name_wire : (node.wire children).name = node.name := by
  obtain ⟨_, _, hwire⟩ := node.exists_wire_eq children
  rw [hwire]

@[simp] theorem help_wire : (node.wire children).help = node.help := by
  obtain ⟨_, _, hwire⟩ := node.exists_wire_eq children
  rw [hwire]

@[simp] theorem aliasName_wire : (node.wire children).aliasName = node.aliasName := by
  obtain ⟨_, _, hwire⟩ := node.exists_wire_eq children
  rw [hwire]

@[simp] theorem action_wire : (node.wire children).action = node.action := by
  obtain ⟨_, _, hwire⟩ := node.exists_wire_eq children
  rw [hwire]

@[simp] theorem store_wire : (node.wire children).store = node.store := by
  obtain ⟨_, _, hwire⟩ := node.exists_wire_eq children
  rw [hwire]

/-- Of several children under one key the last one is kept. -/
theorem child?_wire (key : String) :
    (node.wire children).child? key =
      children.foldl (fun found entry => if entry.1 = key then some entry.2 else found)
        (node.child? key) := by
  induction children generalizing node with
  | nil => rfl
  | cons entry rest ih => rw [wire_cons, ih, child?_insertChild, List.foldl_cons]

end Node

namespace Grammar

variable {grammar : Grammar R} {store root : StoreRef}

theorem nodes_linkAll (grammar : Grammar R) (parent : Nat) (children : List (String × Nat)) :
    (grammar.linkAll parent children).1.nodes = grammar.nodes.modify parent (·.wire children) := by
  induction children generalizing grammar with
  | nil =>
      apply Array.ext_getElem?
      intro index
      simp [linkAll, Array.getElem?_modify]
  | cons entry rest ih =>
      have hrest : (grammar.linkAll parent (entry :: rest)).1 =
          ((grammar.link parent entry.1 entry.2).1.linkAll parent rest).1 := rfl
      rw [hrest, ih, nodes_link]
      apply Array.ext_getElem?
      intro index
      by_cases hindex : parent = index
      · simp [Array.getElem?_modify, hindex, Function.comp_def]
      · simp [Array.getElem?_modify, hindex]

theorem storeAt_link (grammar : Grammar R) (parent : Nat) (key : String) (child : Nat) :
    (grammar.link parent key child).1.storeAt = grammar.storeAt := by
  funext index
  rw [storeAt, nodes_link, Array.getElem?_modify, storeAt]
  split
  · cases grammar.nodes[index]? <;> rfl
  · rfl

/-- The nodes at two places capture into one logical store, if both capture. -/
def UnifiedAt (grammar : Grammar R) (parent child : Nat) : Prop :=
  ∀ own other, grammar.storeAt parent = some own → grammar.storeAt child = some other →
    grammar.sameStore own other = true

/-- An edge between nodes of one logical store unifies nothing. -/
theorem stores_link_of_unifiedAt {parent child : Nat} (hunified : grammar.UnifiedAt parent child)
    (key : String) : (grammar.link parent key child).1.stores = grammar.stores := by
  rw [stores_link]
  split
  next own other hown hother =>
    obtain ⟨root, hparent, hchild⟩ :=
      grammar.stores.isUnified_iff.mp (hunified own other hown hother)
    rw [StoreTable.unify_of_same hparent hchild]
  · rfl

theorem stores_linkAll_of_unifiedAt {parent : Nat} {children : List (String × Nat)}
    (hunified : ∀ entry ∈ children, grammar.UnifiedAt parent entry.2) :
    (grammar.linkAll parent children).1.stores = grammar.stores := by
  induction children generalizing grammar with
  | nil => rfl
  | cons entry rest ih =>
      obtain ⟨hentry, hrest⟩ := List.forall_mem_cons.mp hunified
      have hstores := stores_link_of_unifiedAt hentry entry.1
      have hkept : (grammar.link parent entry.1 entry.2).1.UnifiedAt = grammar.UnifiedAt := by
        unfold UnifiedAt sameStore
        rw [storeAt_link, hstores]
      calc (grammar.linkAll parent (entry :: rest)).1.stores
          = ((grammar.link parent entry.1 entry.2).1.linkAll parent rest).1.stores := rfl
        _ = (grammar.link parent entry.1 entry.2).1.stores :=
            ih fun other hother => hkept ▸ hrest other hother
        _ = grammar.stores := hstores

/-- The node at a place captures into the given store, if it captures at all. -/
def SharesAt (grammar : Grammar R) (store : StoreRef) (index : Nat) : Prop :=
  ∀ own, grammar.storeAt index = some own → own = store

theorem SharesAt.unifiedAt {parent child : Nat}
    (hresolve : grammar.stores.resolve store = some root)
    (hparent : grammar.SharesAt store parent) (hchild : grammar.SharesAt store child) :
    grammar.UnifiedAt parent child := by
  intro own other hown hother
  rw [hparent own hown, hchild other hother]
  exact grammar.stores.isUnified_iff.mpr ⟨root, hresolve, hresolve⟩

/-! ## One description -/

/-- What a description asks of a node: its name, its action, its store, and its children under
their own names. -/
structure Realises (grammar : Grammar R) (spec : NodeSpec R) (node : Node R) : Prop where
  name_eq : node.name = spec.name
  action_eq : node.action = spec.action
  store_eq : node.store = spec.target.existing?
  children : ∃ indices, grammar.places spec.children = .ok indices ∧
    ∀ key, node.child? key = indices.foldl
      (fun found child => if grammar.nameAt child = key then some child else found) none

/-- The grammar with one more node. -/
def append (grammar : Grammar R) (node : Node R) : Grammar R :=
  { grammar with nodes := grammar.nodes.push node }

theorem nameAt_append (node : Node R) {index : Nat} (hindex : index < grammar.nodes.size) :
    (grammar.append node).nameAt index = grammar.nameAt index := by
  rw [nameAt, nameAt, append, Array.getElem?_push_lt hindex, Array.getElem?_eq_getElem hindex]

theorem storeAt_append (node : Node R) {index : Nat} (hindex : index < grammar.nodes.size) :
    (grammar.append node).storeAt index = grammar.storeAt index := by
  rw [storeAt, storeAt, append, Array.getElem?_push_lt hindex, Array.getElem?_eq_getElem hindex]

theorem places_append (node : Node R) {children : List NodeRef} {indices : List Nat}
    (hplaces : grammar.places children = .ok indices) :
    (grammar.append node).places children = .ok indices := by
  obtain ⟨hnodes, hbounds⟩ := places_eq_ok_iff.mp hplaces
  refine places_eq_ok_iff.mpr ⟨hnodes, fun index hindex => ?_⟩
  rw [append, Array.size_push]
  exact Nat.lt_succ_of_lt (hbounds index hindex)

theorem Realises.append {spec : NodeSpec R} {found : Node R}
    (hrealises : grammar.Realises spec found) (node : Node R) :
    (grammar.append node).Realises spec found := by
  obtain ⟨hname, haction, hstore, indices, hplaces, hchildren⟩ := hrealises
  refine ⟨hname, haction, hstore, indices, places_append node hplaces, fun key => ?_⟩
  have hbounds := places_lt hplaces
  rw [hchildren key]
  apply List.foldl_ext
  intro current child hchild
  rw [nameAt_append node (hbounds child hchild)]

/-- Wiring a node at the end of the table changes only that node. -/
theorem nodes_linkAll_append (grammar : Grammar R) (node : Node R)
    (children : List (String × Nat)) :
    ((grammar.append node).linkAll grammar.nodes.size children).1.nodes =
      grammar.nodes.push (node.wire children) := by
  rw [nodes_linkAll]
  apply Array.ext_getElem?
  intro index
  rw [Array.getElem?_modify]
  by_cases hindex : grammar.nodes.size = index
  · subst hindex
    simp [append]
  · simp [append, Array.getElem?_push, hindex, Ne.symm hindex]

/-- Wiring a node at the end of the table to nodes that share its store unifies nothing. -/
theorem linkAll_append {node : Node R} {children : List (String × Nat)}
    (hresolve : grammar.stores.resolve store = some root)
    (hnode : ∀ own, node.store = some own → own = store)
    (hbounds : ∀ entry ∈ children, entry.2 < grammar.nodes.size)
    (hshares : ∀ entry ∈ children, grammar.SharesAt store entry.2) :
    ((grammar.append node).linkAll grammar.nodes.size children).1 =
      grammar.append (node.wire children) := by
  have hnodes := grammar.nodes_linkAll_append node children
  have hstores : ((grammar.append node).linkAll grammar.nodes.size children).1.stores =
      grammar.stores := by
    have hroot : (grammar.append node).stores.resolve store = some root := hresolve
    refine stores_linkAll_of_unifiedAt fun entry hentry => SharesAt.unifiedAt hroot ?_ ?_
    · intro own hown
      exact hnode own (by simpa [storeAt, append] using hown)
    · intro own hown
      rw [storeAt_append node (hbounds entry hentry)] at hown
      exact hshares entry hentry own hown
  generalize ((grammar.append node).linkAll grammar.nodes.size children).1 = linked
    at hnodes hstores
  obtain ⟨nodes, stores⟩ := linked
  subst hnodes hstores
  rfl

/-- A description whose children are known and share its store is built, and nothing but its node
is added. -/
theorem build_of_shares {spec : NodeSpec R} {indices : List Nat}
    (hresolve : grammar.stores.resolve store = some root)
    (htarget : spec.target = .nowhere ∨ spec.target = .into store)
    (hplaces : grammar.places spec.children = .ok indices)
    (hshares : ∀ index ∈ indices, grammar.SharesAt store index) :
    ∃ node trace, grammar.build spec =
        .ok ⟨.stored grammar.nodes.size, grammar.append node, trace⟩ ∧
      (grammar.append node).Realises spec node := by
  have hbounds := places_lt hplaces
  have hresolved : grammar.resolveTarget spec.target =
      .ok (spec.target.existing?, grammar.stores) := by
    rcases htarget with htarget | htarget
    · rw [htarget]
      rfl
    · rw [htarget]
      simp [resolveTarget, CaptureTarget.existing?, StoreTable.contains_of_resolve hresolve]
  have hexisting : ∀ own, spec.target.existing? = some own → own = store := by
    intro own hown
    rcases htarget with htarget | htarget <;> rw [htarget] at hown
    · simp [CaptureTarget.existing?] at hown
    · exact (Option.some.inj hown).symm
  -- The node stands at the end of the table, without children, when the edges are drawn.
  let bare := spec.bare spec.target.existing?
  let children := indices.map fun index => (grammar.nameAt index, index)
  have hlinked : ((grammar.append bare).linkNamed grammar.nodes.size indices).1 =
      grammar.append (bare.wire children) := by
    have hnamed : (indices.map fun index => ((grammar.append bare).nameAt index, index)) =
        children :=
      List.map_congr_left fun index hindex => by rw [nameAt_append bare (hbounds index hindex)]
    rw [linkNamed, hnamed]
    exact linkAll_append hresolve hexisting (by simpa [children] using hbounds)
      (by simpa [children] using hshares)
  refine ⟨bare.wire children,
    ((grammar.append bare).linkNamed grammar.nodes.size indices).2 ++
      [.builtNode (.stored grammar.nodes.size) spec.name], ?_, ?_⟩
  · rw [← hlinked]
    exact build_of_places hplaces hresolved
  · refine ⟨?_, ?_, ?_, indices, places_append _ hplaces, fun key => ?_⟩
    · simp [bare, NodeSpec.bare]
    · simp [bare, NodeSpec.bare]
    · simp [bare, NodeSpec.bare]
    · have hnone : bare.child? key = none := by simp [bare, NodeSpec.bare, Node.child?]
      rw [Node.child?_wire, hnone, List.foldl_map]
      apply List.foldl_ext
      intro current child hchild
      rw [nameAt_append _ (hbounds child hchild)]

end Grammar

/-! ## A row of descriptions -/

/-- In a row that starts at a base, the description at an offset captures nowhere or into the
store, and its children are at earlier offsets. -/
structure NodeSpec.LooksBack (spec : NodeSpec R) (store : StoreRef) (base offset : Nat) : Prop where
  target : spec.target = .nowhere ∨ spec.target = .into store
  children : ∃ offsets : List Nat,
    spec.children = offsets.map (fun earlier => .stored (base + earlier)) ∧
      ∀ earlier ∈ offsets, earlier < offset

namespace Grammar

variable {grammar : Grammar R} {store root : StoreRef} {base : Nat}

/-- The grammar ends with the nodes of a row of descriptions, from the base on. -/
structure EndsWith (grammar : Grammar R) (base : Nat) (row : List (NodeSpec R)) : Prop where
  size_eq : grammar.nodes.size = base + row.length
  realised : ∀ (offset : Nat) (spec : NodeSpec R), row[offset]? = some spec →
    ∃ node, grammar.nodes[base + offset]? = some node ∧ grammar.Realises spec node

theorem EndsWith.nil (grammar : Grammar R) : grammar.EndsWith grammar.nodes.size [] :=
  ⟨rfl, by simp⟩

theorem EndsWith.append {row : List (NodeSpec R)} {spec : NodeSpec R} {node : Node R}
    (hends : grammar.EndsWith base row) (hrealises : (grammar.append node).Realises spec node) :
    (grammar.append node).EndsWith base (row ++ [spec]) := by
  refine ⟨by simp [Grammar.append, hends.size_eq, Nat.add_assoc], ?_⟩
  intro offset other hother
  rw [List.getElem?_append] at hother
  split at hother
  next hoffset =>
    obtain ⟨found, hfound, hrealised⟩ := hends.realised offset other hother
    refine ⟨found, ?_, hrealised.append node⟩
    rw [Grammar.append, Array.getElem?_push_lt (by rw [hends.size_eq]; omega)]
    rw [← hfound, Array.getElem?_eq_getElem]
  next hoffset =>
    obtain ⟨hzero, rfl⟩ : offset - row.length = 0 ∧ spec = other := by
      cases hlast : offset - row.length <;> simp [hlast] at hother
      exact ⟨rfl, hother⟩
    have hplace : base + offset = grammar.nodes.size := by
      rw [hends.size_eq]
      omega
    exact ⟨node, by rw [hplace, Grammar.append, Array.getElem?_push_size], hrealises⟩

/-- The nodes of a row share the store. -/
theorem EndsWith.sharesAt {row : List (NodeSpec R)} (hends : grammar.EndsWith base row)
    (hrow : ∀ (offset : Nat) (spec : NodeSpec R), row[offset]? = some spec →
      spec.LooksBack store base offset)
    {offset : Nat} (hoffset : offset < row.length) : grammar.SharesAt store (base + offset) := by
  intro own hown
  obtain ⟨node, hnode, hrealises⟩ := hends.realised offset _ (List.getElem?_eq_getElem hoffset)
  rw [storeAt, hnode, Option.bind_some, hrealises.store_eq] at hown
  rcases (hrow offset _ (List.getElem?_eq_getElem hoffset)).target with htarget | htarget <;>
    rw [htarget] at hown
  · simp [CaptureTarget.existing?] at hown
  · exact (Option.some.inj hown).symm

theorem places_of_lt {offsets : List Nat}
    (hoffsets : ∀ offset ∈ offsets, base + offset < grammar.nodes.size) :
    grammar.places (offsets.map fun offset => .stored (base + offset)) =
      .ok (offsets.map (base + ·)) := by
  refine places_eq_ok_iff.mpr ⟨by simp, fun index hindex => ?_⟩
  obtain ⟨offset, hoffset, rfl⟩ := List.mem_map.mp hindex
  exact hoffsets offset hoffset

end Grammar

/-- A row of descriptions that look back is built without fail behind the part of it that is built
already, and the stores stay as they are. -/
theorem Select.buildAll_of_looksBack {grammar : Grammar R} {store root : StoreRef} {base : Nat}
    (hresolve : grammar.stores.resolve store = some root) (built rest : List (NodeSpec R))
    (hends : grammar.EndsWith base built)
    (hrow : ∀ (offset : Nat) (spec : NodeSpec R), (built ++ rest)[offset]? = some spec →
      spec.LooksBack store base offset) :
    ∃ after trace, buildAll grammar rest = ⟨.ok (), after, trace⟩ ∧
      after.EndsWith base (built ++ rest) ∧ after.stores = grammar.stores := by
  induction rest generalizing grammar built with
  | nil => exact ⟨grammar, [], rfl, by simpa using hends, rfl⟩
  | cons spec rest ih =>
      have hbuilt : ∀ (offset : Nat) (other : NodeSpec R), built[offset]? = some other →
          other.LooksBack store base offset := by
        intro offset other hother
        apply hrow
        rw [List.getElem?_append_left (List.getElem?_eq_some_iff.mp hother).1, hother]
      -- The next description looks back, so its children are among what is built already.
      obtain ⟨htarget, offsets, hchildren, hearlier⟩ := hrow built.length spec (by simp)
      have hplaces : grammar.places spec.children = .ok (offsets.map (base + ·)) := by
        rw [hchildren]
        apply Grammar.places_of_lt
        intro offset hoffset
        rw [hends.size_eq]
        exact Nat.add_lt_add_left (hearlier offset hoffset) base
      have hshares : ∀ index ∈ offsets.map (base + ·), grammar.SharesAt store index := by
        intro index hindex
        obtain ⟨offset, hoffset, rfl⟩ := List.mem_map.mp hindex
        exact hends.sharesAt hbuilt (hearlier offset hoffset)
      obtain ⟨node, trace, hbuild, hrealises⟩ :=
        Grammar.build_of_shares hresolve htarget hplaces hshares
      have hroot : (grammar.append node).stores.resolve store = some root := hresolve
      obtain ⟨after, more, hrest, hafter, hstores⟩ :=
        ih hroot (built ++ [spec]) (hends.append hrealises)
          (by simpa using hrow)
      refine ⟨after, trace ++ more, ?_, by simpa using hafter, hstores⟩
      simp only [buildAll, hbuild, hrest]

end CommandGrammar
