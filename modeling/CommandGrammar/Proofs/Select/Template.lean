import CommandGrammar.Proofs.Dispatch.Arrival
import CommandGrammar.Proofs.Grammar.Appending
import CommandGrammar.Proofs.Session.Integrity
import Mathlib.Tactic.IntervalCases

/-! # The steps of the SELECT template

The template is a row of nodes. Seen from its store, a node either asks for a value, and then every
token leads on and is recorded, or it offers keywords, and then only these lead on and nothing is
recorded. Behind every slot the keywords of all later slots are offered.
-/

namespace CommandGrammar.Select

variable {R : Type}

/-- The executable slots of a statement. -/
inductive Slot where
  | table
  | condition
  | key
  | field
  | range
deriving DecidableEq, Repr

namespace Slot

/-- The place of a slot in a statement, which is the place of its callback. -/
def rank : Slot → Nat
  | .table => 0
  | .condition => 1
  | .key => 2
  | .field => 3
  | .range => 4

/-- The keyword in front of a slot. -/
def keyword : Slot → String
  | .table => "from"
  | .condition => "where"
  | .key => "group by"
  | .field => "order by"
  | .range => "limit"

/-- All slots in the order of a statement. -/
def all : List Slot := [.table, .condition, .key, .field, .range]

theorem mem_all (slot : Slot) : slot ∈ all := by cases slot <;> decide

theorem keyword_injective : Function.Injective keyword := by
  intro first second
  cases first <;> cases second <;> simp [keyword]

theorem keyword_ne_wildcard (slot : Slot) : slot.keyword ≠ wildcard := by
  cases slot <;> simp [keyword, wildcard]

/-- The slots behind a slot. -/
def later (slot : Slot) : List Slot := all.filter (slot.rank < ·.rank)

theorem mem_later_iff {slot other : Slot} : other ∈ slot.later ↔ slot.rank < other.rank := by
  simp [later, mem_all]

/-- The offset of a slot in the row of the template. -/
def offset (slot : Slot) : Nat := 8 - 2 * slot.rank

/-- The offset of the node of a keyword. -/
def keywordOffset (slot : Slot) : Nat := 9 - 2 * slot.rank

end Slot

/-- The offset of the node for the selected fields. -/
def fieldsOffset : Nat := 10

/-- The callback of a slot. -/
def Callbacks.at (callbacks : Callbacks R) : Slot → Callback R
  | .table => callbacks.table
  | .condition => callbacks.condition
  | .key => callbacks.key
  | .field => callbacks.field
  | .range => callbacks.range

theorem Callbacks.exists_ofList? {callbacks : List (Callback R)}
    (hlength : callbackCount ≤ callbacks.length) :
    ∃ known, Callbacks.ofList? callbacks = some known ∧
      ∀ slot : Slot, callbacks[slot.rank]? = some (known.at slot) := by
  match callbacks, hlength with
  | table :: condition :: key :: field :: range :: _, _ =>
    refine ⟨⟨table, condition, key, field, range⟩, rfl, fun slot => ?_⟩
    cases slot <;> rfl

/-! ## Asking and offering -/

/-- Every token leads from one place to another and is recorded in the store. -/
def Asks (grammar : Grammar R) (store : StoreRef) (source target : Nat) : Prop :=
  ∀ token, grammar.lookup (.stored source) token = .stored target ∧
    grammar.records (.stored source) token store = true

/-- The keywords of the offered slots lead on and are not recorded, other tokens lead nowhere. -/
structure Offers (grammar : Grammar R) (store : StoreRef) (base source : Nat)
    (offered : List Slot) : Prop where
  leads : ∀ slot ∈ offered,
    grammar.lookup (.stored source) slot.keyword = .stored (base + slot.keywordOffset)
  silent : ∀ slot ∈ offered, grammar.records (.stored source) slot.keyword store = false
  nowhere : ∀ token, (∀ slot ∈ offered, slot.keyword ≠ token) →
    grammar.lookup (.stored source) token = .notFound

section Steps

variable {grammar : Grammar R} {store : StoreRef} {source : Nat} {node : Node R}
  {spec : NodeSpec R}

theorem asks_of_realises {target : Nat} (hnode : grammar.nodes[source]? = some node)
    (hrealises : grammar.Realises spec node) (htarget : spec.target = .into store)
    (hchildren : spec.children = [.stored target]) (hname : grammar.nameAt target = wildcard)
    (hmirrored : node.WildcardMirrored) (hself : grammar.stores.isUnified store store = true) :
    Asks grammar store source target := by
  intro token
  obtain ⟨_, _, hstore, indices, hplaces, hchild⟩ := hrealises
  have hindices : indices = [target] := by
    rw [hchildren] at hplaces
    by_cases hbound : target < grammar.nodes.size <;>
      simp [Grammar.places, Grammar.place?, hbound, Except.map] at hplaces
    exact hplaces.symm
  have hwildcard : node.child? wildcard = some target := by
    rw [hchild, hindices, List.foldl_cons, if_pos hname, List.foldl_nil]
  have hstep : node.step? token = some (target, true) := by
    unfold Node.step?
    rw [hmirrored, hwildcard, hchild, hindices]
    by_cases htoken : token = wildcard
    · simp [hname, htoken]
    · simp [hname, Ne.symm htoken]
  refine ⟨?_, ?_⟩
  · simp [Grammar.lookup, Grammar.node?, hnode, hstep]
  · rw [htarget] at hstore
    simp [Grammar.records, Grammar.node?, hnode, Node.fallsToWildcard_of_step? hstep, hstore,
      CaptureTarget.existing?, Grammar.sameStore, hself]

/-- Among children under keywords, a keyword finds the child of its slot. -/
theorem foldl_keyword (slots : List Slot) (slot : Slot) (place : Slot → Nat) (found : Option Nat) :
    slots.foldl (fun found other => if other.keyword = slot.keyword then some (place other)
      else found) found = if slot ∈ slots then some (place slot) else found := by
  induction slots generalizing found with
  | nil => rfl
  | cons first rest ih =>
      rw [List.foldl_cons, ih]
      by_cases hfirst : first = slot
      · simp [hfirst]
      · simp [hfirst, Ne.symm hfirst, Slot.keyword_injective.eq_iff]

theorem foldl_other (slots : List Slot) {token : String}
    (htoken : ∀ slot ∈ slots, slot.keyword ≠ token) (place : Slot → Nat) (found : Option Nat) :
    slots.foldl (fun found other => if other.keyword = token then some (place other)
      else found) found = found := by
  induction slots generalizing found with
  | nil => rfl
  | cons first rest ih =>
      obtain ⟨hfirst, hrest⟩ := List.forall_mem_cons.mp htoken
      rw [List.foldl_cons, if_neg hfirst, ih hrest]

/-- Children under keywords are found by these and by nothing else. -/
theorem child?_of_realises {base : Nat} {offered : List Slot}
    (hrealises : grammar.Realises spec node)
    (hchildren : spec.children = offered.map fun slot => .stored (base + slot.keywordOffset))
    (hknown : ∀ slot ∈ offered, base + slot.keywordOffset < grammar.nodes.size ∧
      grammar.nameAt (base + slot.keywordOffset) = slot.keyword) (key : String) :
    node.child? key = offered.foldl (fun found slot =>
      if slot.keyword = key then some (base + slot.keywordOffset) else found) none := by
  obtain ⟨_, _, _, indices, hplaces, hchild⟩ := hrealises
  have hindices : indices = offered.map fun slot => base + slot.keywordOffset := by
    have hbounds : ∀ offset ∈ offered.map Slot.keywordOffset,
        base + offset < grammar.nodes.size := by
      intro offset hoffset
      obtain ⟨slot, hslot, rfl⟩ := List.mem_map.mp hoffset
      exact (hknown slot hslot).1
    have hoffsets := Grammar.places_of_lt hbounds
    rw [List.map_map, List.map_map] at hoffsets
    rw [hchildren] at hplaces
    exact Except.ok.inj (hplaces.symm.trans hoffsets)
  rw [hchild, hindices, List.foldl_map]
  apply List.foldl_ext
  intro found slot hslot
  rw [(hknown slot hslot).2]

theorem offers_of_realises {base : Nat} {offered : List Slot}
    (hnode : grammar.nodes[source]? = some node) (hrealises : grammar.Realises spec node)
    (hchildren : spec.children = offered.map fun slot => .stored (base + slot.keywordOffset))
    (hknown : ∀ slot ∈ offered, base + slot.keywordOffset < grammar.nodes.size ∧
      grammar.nameAt (base + slot.keywordOffset) = slot.keyword)
    (hmirrored : node.WildcardMirrored) : Offers grammar store base source offered := by
  have hkeys := child?_of_realises hrealises hchildren hknown
  have hkeyword : ∀ slot ∈ offered,
      node.step? slot.keyword = some (base + slot.keywordOffset, false) := by
    intro slot hslot
    rw [Node.step?, hkeys, foldl_keyword offered slot fun slot => base + slot.keywordOffset,
      if_pos hslot]
    simp [slot.keyword_ne_wildcard]
  refine ⟨?_, ?_, ?_⟩
  · intro slot hslot
    simp [Grammar.lookup, Grammar.node?, hnode, hkeyword slot hslot]
  · intro slot hslot
    simp [Grammar.records, Grammar.node?, hnode,
      Node.fallsToWildcard_of_step? (hkeyword slot hslot)]
  · intro token htoken
    have hwildcard : node.child? wildcard = none := by
      rw [hkeys, foldl_other offered (fun slot _ => slot.keyword_ne_wildcard)]
    have hstep : node.step? token = none := by
      rw [Node.step?, hkeys, foldl_other offered htoken, hmirrored, hwildcard]
      rfl
    simp [Grammar.lookup, Grammar.node?, hnode, hstep]

end Steps

/-! ## The row -/

/-- The template stands in a grammar from a base on, as seen from its store. -/
structure Wired (grammar : Grammar R) (store : StoreRef) (callbacks : Callbacks R)
    (base : Nat) : Prop where
  root_asks : Asks grammar store (base + rootOffset) (base + fieldsOffset)
  fields_offer : Offers grammar store base (base + fieldsOffset) [.table]
  keyword_asks : ∀ slot : Slot, Asks grammar store (base + slot.keywordOffset) (base + slot.offset)
  slot_offers : ∀ slot : Slot, Offers grammar store base (base + slot.offset) slot.later
  slot_runs : ∀ slot : Slot, ∃ node, grammar.nodes[base + slot.offset]? = some node ∧
    node.action = some fun captures => callbacks.at slot (captures.values store)
  root_idle : grammar.isExecutable (.stored (base + rootOffset)) = false
  fields_idle : grammar.isExecutable (.stored (base + fieldsOffset)) = false
  keyword_idle : ∀ slot : Slot, grammar.isExecutable (.stored (base + slot.keywordOffset)) = false

/-- The offsets of the children of the node at an offset. -/
def childOffsets : Nat → List Nat
  | 0 => []
  | 4 => [3, 1]
  | 6 => [5, 3, 1]
  | 8 => [7, 5, 3, 1]
  | offset + 1 => [offset]

theorem specs_looksBack (store : StoreRef) (callbacks : Callbacks R) (base offset : Nat)
    (spec : NodeSpec R) (hspec : (specs store callbacks base)[offset]? = some spec) :
    spec.LooksBack store base offset := by
  have hoffset : offset < 12 := (List.getElem?_eq_some_iff.mp hspec).1
  refine ⟨?_, childOffsets offset, ?_, ?_⟩
  · interval_cases offset <;> obtain rfl := Option.some.inj hspec <;>
      first | exact .inl rfl | exact .inr rfl
  · interval_cases offset <;> obtain rfl := Option.some.inj hspec <;> rfl
  · interval_cases offset <;> decide

section Row

variable {grammar : Grammar R} {store : StoreRef} {callbacks : Callbacks R} {base : Nat}

/-- What stands in a grammar that ends with the template. -/
theorem exists_node (hends : grammar.EndsWith base (specs store callbacks base)) {offset : Nat}
    (hoffset : offset < 12) :
    ∃ node, grammar.nodes[base + offset]? = some node ∧
      grammar.Realises (specs store callbacks base)[offset] node :=
  hends.realised offset _ (List.getElem?_eq_getElem hoffset)

theorem nameAt_eq (hends : grammar.EndsWith base (specs store callbacks base)) {offset : Nat}
    (hoffset : offset < 12) :
    grammar.nameAt (base + offset) = (specs store callbacks base)[offset].name := by
  obtain ⟨node, hnode, hrealises⟩ := exists_node hends hoffset
  rw [Grammar.nameAt, hnode]
  exact hrealises.name_eq

theorem isExecutable_eq (hends : grammar.EndsWith base (specs store callbacks base)) {offset : Nat}
    (hoffset : offset < 12) :
    grammar.isExecutable (.stored (base + offset)) =
      (specs store callbacks base)[offset].action.isSome := by
  obtain ⟨node, hnode, hrealises⟩ := exists_node hends hoffset
  simp [Grammar.isExecutable, Grammar.node?, hnode, Node.isExecutable, hrealises.action_eq]

/-- A node that captures into the store and has a wildcard for its only child asks for a value. -/
theorem asks_at (hwf : grammar.WellFormed) (hself : grammar.stores.isUnified store store = true)
    (hends : grammar.EndsWith base (specs store callbacks base)) {source target : Nat}
    (hsource : source < 12) (htarget : target < 12)
    (hinto : (specs store callbacks base)[source].target = .into store)
    (hchildren : (specs store callbacks base)[source].children = [.stored (base + target)])
    (hname : (specs store callbacks base)[target].name = wildcard) :
    Asks grammar store (base + source) (base + target) := by
  obtain ⟨node, hnode, hrealises⟩ := exists_node hends hsource
  exact asks_of_realises hnode hrealises hinto hchildren ((nameAt_eq hends htarget).trans hname)
    (hwf.mirrored _ node hnode) hself

theorem keyword_known (hends : grammar.EndsWith base (specs store callbacks base)) (slot : Slot) :
    base + slot.keywordOffset < grammar.nodes.size ∧
      grammar.nameAt (base + slot.keywordOffset) = slot.keyword := by
  have hoffset : slot.keywordOffset < 12 := by cases slot <;> decide
  refine ⟨?_, (nameAt_eq hends hoffset).trans (by cases slot <;> rfl)⟩
  rw [hends.size_eq]
  exact Nat.add_lt_add_left hoffset base

/-- A node whose children stand under keywords offers these. -/
theorem offers_at (hwf : grammar.WellFormed)
    (hends : grammar.EndsWith base (specs store callbacks base)) {source : Nat}
    {offered : List Slot} (hsource : source < 12)
    (hchildren : (specs store callbacks base)[source].children =
      offered.map fun slot => .stored (base + slot.keywordOffset)) :
    Offers grammar store base (base + source) offered := by
  obtain ⟨node, hnode, hrealises⟩ := exists_node hends hsource
  exact offers_of_realises hnode hrealises hchildren (fun slot _ => keyword_known hends slot)
    (hwf.mirrored _ node hnode)

theorem wired_of_endsWith (hwf : grammar.WellFormed)
    (hself : grammar.stores.isUnified store store = true)
    (hends : grammar.EndsWith base (specs store callbacks base)) :
    Wired grammar store callbacks base where
  root_asks := asks_at hwf hself hends (by decide) (by decide) rfl rfl rfl
  fields_offer := offers_at hwf hends (by decide) rfl
  keyword_asks := by
    intro slot
    cases slot <;> exact asks_at hwf hself hends (by decide) (by decide) rfl rfl rfl
  slot_offers := by
    intro slot
    cases slot <;> exact offers_at hwf hends (by decide) rfl
  slot_runs := by
    intro slot
    have hoffset : slot.offset < 12 := by cases slot <;> decide
    obtain ⟨node, hnode, hrealises⟩ := exists_node hends hoffset
    refine ⟨node, hnode, hrealises.action_eq.trans ?_⟩
    cases slot <;> rfl
  root_idle := isExecutable_eq hends (by decide)
  fields_idle := isExecutable_eq hends (by decide)
  keyword_idle := by
    intro slot
    cases slot <;> exact isExecutable_eq hends (by decide)

/-- Captured tokens have no part in how the template is wired. -/
theorem Wired.of_sameStructure {other : Grammar R} (hwired : Wired grammar store callbacks base)
    (hsame : other.SameStructure grammar) : Wired other store callbacks base := by
  have hasks : ∀ {source target}, Asks grammar store source target →
      Asks other store source target := by
    intro source target hasks token
    rw [hsame.lookup_eq, hsame.records_eq]
    exact hasks token
  have hoffers : ∀ {source offered}, Offers grammar store base source offered →
      Offers other store base source offered := by
    intro source offered hoffers
    refine ⟨?_, ?_, ?_⟩
    · rw [hsame.lookup_eq]
      exact hoffers.leads
    · intro slot hslot
      rw [hsame.records_eq]
      exact hoffers.silent slot hslot
    · rw [hsame.lookup_eq]
      exact hoffers.nowhere
  refine ⟨hasks hwired.root_asks, hoffers hwired.fields_offer,
    fun slot => hasks (hwired.keyword_asks slot), fun slot => hoffers (hwired.slot_offers slot),
    ?_, ?_, ?_, ?_⟩
  · rw [hsame.nodes_eq]
    exact hwired.slot_runs
  · rw [hsame.isExecutable_eq, hwired.root_idle]
  · rw [hsame.isExecutable_eq, hwired.fields_idle]
  · intro slot
    rw [hsame.isExecutable_eq, hwired.keyword_idle]

end Row

/-- Installing the template into a store that exists, with enough callbacks, succeeds: the grammar
then ends with the template, and its stores are as before. -/
theorem install_eq {grammar : Grammar R} {store root : StoreRef} {callbacks : List (Callback R)}
    {known : Callbacks R} (hresolve : grammar.stores.resolve store = some root)
    (hknown : Callbacks.ofList? callbacks = some known) :
    ∃ after trace, install grammar store callbacks =
        ⟨.ok (.stored (grammar.size + rootOffset)), after, trace⟩ ∧
      after.EndsWith grammar.size (specs store known grammar.size) ∧
      after.stores = grammar.stores := by
  obtain ⟨after, trace, hbuilt, hends, hstores⟩ :=
    buildAll_of_looksBack hresolve [] (specs store known grammar.size) (.nil grammar)
      (specs_looksBack store known grammar.size)
  let ignored :=
    if callbackCount < callbacks.length then [Event.ignoredCallbacks callbacks.length] else []
  refine ⟨after, ignored ++ trace, ?_, hends, hstores⟩
  simp only [install, hknown, hbuilt]
  rfl

end CommandGrammar.Select
