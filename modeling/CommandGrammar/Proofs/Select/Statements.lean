import CommandGrammar.Proofs.Select.Template

/-! # The statements that the SELECT template runs

A statement is executed by the callback of its last slot, on all its values and with whatever
tokens behind it that no longer continue it. Every other list of tokens that begins with `select`
runs nothing, even if a statement stands at its beginning and only the value behind one more
keyword is missing.
-/

namespace CommandGrammar.Select

variable {R : Type}

/-- A statement: the selected fields, the table, and the values behind the keywords of further
slots. -/
structure Statement where
  fields : String
  table : String
  clauses : List (Slot × String) := []
deriving DecidableEq, Repr

/-- Every clause as its keyword and its value. -/
def clauseTokens (clauses : List (Slot × String)) : List String :=
  clauses.flatMap fun clause => [clause.1.keyword, clause.2]

/-- The clauses keep the order of the slots, and all come behind the given one. -/
def InOrder (slot : Slot) (clauses : List (Slot × String)) : Prop :=
  (slot :: clauses.map (·.1)).Pairwise fun first second => first.rank < second.rank

/-- The slot of the last clause, or the given one if there is no clause. -/
def lastSlot (slot : Slot) (clauses : List (Slot × String)) : Slot :=
  (clauses.map (·.1)).getLastD slot

/-- The tokens do not begin with the keyword of a slot behind the given one. -/
def Closes (slot : Slot) (tokens : List String) : Prop :=
  ∀ other : Slot, slot.rank < other.rank → tokens.head? ≠ some other.keyword

instance (slot : Slot) (clauses : List (Slot × String)) : Decidable (InOrder slot clauses) :=
  inferInstanceAs (Decidable (List.Pairwise _ _))

instance (slot : Slot) (tokens : List String) : Decidable (Closes slot tokens) :=
  decidable_of_iff (∀ other ∈ Slot.all, slot.rank < other.rank →
      tokens.head? ≠ some other.keyword)
    ⟨fun hcloses other => hcloses other other.mem_all, fun hcloses other _ => hcloses other⟩

theorem inOrder_nil (slot : Slot) : InOrder slot [] := List.pairwise_singleton _ _

theorem inOrder_cons_iff {slot : Slot} {clause : Slot × String} {rest : List (Slot × String)} :
    InOrder slot (clause :: rest) ↔ slot.rank < clause.1.rank ∧ InOrder clause.1 rest := by
  unfold InOrder
  rw [List.map_cons, List.pairwise_cons]
  constructor
  · rintro ⟨hbehind, hrest⟩
    exact ⟨hbehind _ List.mem_cons_self, hrest⟩
  · rintro ⟨hclause, hrest⟩
    refine ⟨List.forall_mem_cons.mpr ⟨hclause, fun other hother => ?_⟩, hrest⟩
    exact Nat.lt_trans hclause ((List.pairwise_cons.mp hrest).1 other hother)

theorem lastSlot_cons (slot : Slot) (clause : Slot × String) (rest : List (Slot × String)) :
    lastSlot slot (clause :: rest) = lastSlot clause.1 rest := by
  rw [lastSlot, List.map_cons, List.getLastD_cons, lastSlot]

namespace Statement

/-- The tokens of a statement. -/
def tokens (statement : Statement) : List String :=
  "select" :: statement.fields :: Slot.table.keyword :: statement.table ::
    clauseTokens statement.clauses

/-- The values of a statement in their order. -/
def values (statement : Statement) : List String :=
  statement.fields :: statement.table :: statement.clauses.map (·.2)

/-- The slot that the statement ends with. -/
def last (statement : Statement) : Slot := lastSlot .table statement.clauses

/-- The clauses keep the order of the slots. -/
def Ordered (statement : Statement) : Prop := InOrder .table statement.clauses

/-- The tokens behind a statement do not continue it. -/
def ClosedBy (statement : Statement) (rest : List String) : Prop := Closes statement.last rest

instance (statement : Statement) : Decidable statement.Ordered :=
  inferInstanceAs (Decidable (InOrder _ _))

instance (statement : Statement) (rest : List String) : Decidable (statement.ClosedBy rest) :=
  inferInstanceAs (Decidable (Closes _ _))

end Statement

/-! ## Arriving behind a slot -/

namespace Wired

variable {grammar : Grammar R} {store : StoreRef} {callbacks : Callbacks R} {base : Nat}

theorem arrive_closed (hwired : Wired grammar store callbacks base) {slot : Slot}
    {tokens : List String} (hcloses : Closes slot tokens) :
    grammar.arrive store (.stored (base + slot.offset)) tokens =
      (.stored (base + slot.offset), []) := by
  cases tokens with
  | nil => rfl
  | cons token rest =>
      apply Grammar.arrive_cons_of_nowhere
      apply (hwired.slot_offers slot).nowhere
      rintro other hother rfl
      exact hcloses other (Slot.mem_later_iff.mp hother) rfl

theorem arrive_keyword (hwired : Wired grammar store callbacks base) {slot other : Slot}
    (hbehind : slot.rank < other.rank) (rest : List String) :
    grammar.arrive store (.stored (base + slot.offset)) (other.keyword :: rest) =
      grammar.arrive store (.stored (base + other.keywordOffset)) rest := by
  have hother := Slot.mem_later_iff.mpr hbehind
  have hoffers := hwired.slot_offers slot
  exact Grammar.arrive_cons_of_silent (hoffers.leads other hother) (hoffers.silent other hother)
    rest

/-- Behind a keyword whatever comes is recorded as the value of its slot. -/
theorem arrive_value (hwired : Wired grammar store callbacks base) (slot : Slot) (value : String)
    (rest : List String) :
    grammar.arrive store (.stored (base + slot.keywordOffset)) (value :: rest) =
      ((grammar.arrive store (.stored (base + slot.offset)) rest).1,
        value :: (grammar.arrive store (.stored (base + slot.offset)) rest).2) := by
  obtain ⟨hleads, hrecords⟩ := hwired.keyword_asks slot value
  exact Grammar.arrive_cons_of_recorded hleads hrecords rest

theorem arrive_clauses (hwired : Wired grammar store callbacks base) {slot : Slot}
    {clauses : List (Slot × String)} {rest : List String} (horder : InOrder slot clauses)
    (hcloses : Closes (lastSlot slot clauses) rest) :
    grammar.arrive store (.stored (base + slot.offset)) (clauseTokens clauses ++ rest) =
      (.stored (base + (lastSlot slot clauses).offset), clauses.map (·.2)) := by
  induction clauses generalizing slot with
  | nil => exact hwired.arrive_closed hcloses
  | cons clause others ih =>
      obtain ⟨hbehind, hothers⟩ := inOrder_cons_iff.mp horder
      rw [lastSlot_cons] at hcloses ⊢
      have htokens : clauseTokens (clause :: others) ++ rest =
          clause.1.keyword :: clause.2 :: (clauseTokens others ++ rest) := rfl
      rw [htokens, hwired.arrive_keyword hbehind, hwired.arrive_value, ih hothers hcloses]
      rfl

/-- Behind a slot the tokens either are clauses in order that are closed by the rest, or they run
nothing. -/
theorem clauses_or_idle (hwired : Wired grammar store callbacks base) (slot : Slot) :
    ∀ tokens : List String,
      (∃ clauses rest, tokens = clauseTokens clauses ++ rest ∧ InOrder slot clauses ∧
        Closes (lastSlot slot clauses) rest) ∨
      grammar.isExecutable
        (grammar.arrive store (.stored (base + slot.offset)) tokens).1 = false := by
  intro tokens
  -- A clause takes two tokens, so the induction is on the number of tokens.
  induction hlength : tokens.length using Nat.strong_induction_on generalizing tokens slot with
  | _ length ih =>
      by_cases hcloses : Closes slot tokens
      · exact .inl ⟨[], tokens, rfl, inOrder_nil slot, hcloses⟩
      · simp only [Closes, not_forall, not_not] at hcloses
        -- The keyword of a later slot comes next; without a value behind it nothing runs.
        obtain ⟨other, hbehind, hhead⟩ := hcloses
        obtain ⟨more, rfl⟩ := List.head?_eq_some_iff.mp hhead
        rw [hwired.arrive_keyword hbehind]
        cases more with
        | nil => exact .inr (hwired.keyword_idle other)
        | cons value rest =>
            rw [hwired.arrive_value]
            have hshorter : rest.length < length := by
              rw [← hlength, List.length_cons, List.length_cons]
              omega
            rcases ih rest.length hshorter other rest rfl with
              ⟨clauses, closing, rfl, horder, hclosed⟩ | hidle
            · refine .inl ⟨(other, value) :: clauses, closing, rfl, ?_, ?_⟩
              · exact inOrder_cons_iff.mpr ⟨hbehind, horder⟩
              · rwa [lastSlot_cons]
            · exact .inr hidle

/-! ## Arriving from the root -/

theorem arrive_fields (hwired : Wired grammar store callbacks base) (fields : String)
    (rest : List String) :
    grammar.arrive store (.stored (base + rootOffset)) (fields :: rest) =
      ((grammar.arrive store (.stored (base + fieldsOffset)) rest).1,
        fields :: (grammar.arrive store (.stored (base + fieldsOffset)) rest).2) := by
  obtain ⟨hleads, hrecords⟩ := hwired.root_asks fields
  exact Grammar.arrive_cons_of_recorded hleads hrecords rest

theorem arrive_from (hwired : Wired grammar store callbacks base) (rest : List String) :
    grammar.arrive store (.stored (base + fieldsOffset)) (Slot.table.keyword :: rest) =
      grammar.arrive store (.stored (base + Slot.table.keywordOffset)) rest := by
  have htable : Slot.table ∈ [Slot.table] := List.mem_singleton_self _
  exact Grammar.arrive_cons_of_silent (hwired.fields_offer.leads _ htable)
    (hwired.fields_offer.silent _ htable) rest

theorem arrive_statement (hwired : Wired grammar store callbacks base) {statement : Statement}
    {rest : List String} (hordered : statement.Ordered) (hclosed : statement.ClosedBy rest) :
    grammar.arrive store (.stored (base + rootOffset)) (statement.tokens.tail ++ rest) =
      (.stored (base + statement.last.offset), statement.values) := by
  have htokens : statement.tokens.tail ++ rest = statement.fields :: Slot.table.keyword ::
      statement.table :: (clauseTokens statement.clauses ++ rest) := rfl
  rw [htokens, hwired.arrive_fields, hwired.arrive_from, hwired.arrive_value,
    hwired.arrive_clauses hordered hclosed]
  rfl

/-- From the root on, the tokens either are a statement that is closed by the rest, or they run
nothing. -/
theorem statement_or_idle (hwired : Wired grammar store callbacks base) (tokens : List String) :
    (∃ (statement : Statement) (rest : List String), statement.Ordered ∧
      statement.ClosedBy rest ∧ "select" :: tokens = statement.tokens ++ rest) ∨
    grammar.isExecutable (grammar.arrive store (.stored (base + rootOffset)) tokens).1 = false := by
  match tokens with
  | [] => exact .inr hwired.root_idle
  | [fields] =>
    rw [hwired.arrive_fields]
    exact .inr hwired.fields_idle
  | fields :: token :: rest =>
    rw [hwired.arrive_fields]
    by_cases htoken : token = Slot.table.keyword
    · subst htoken
      rw [hwired.arrive_from]
      cases rest with
      | nil => exact .inr (hwired.keyword_idle .table)
      | cons table rest =>
          rw [hwired.arrive_value]
          rcases hwired.clauses_or_idle .table rest with
            ⟨clauses, closing, rfl, horder, hclosed⟩ | hidle
          · exact .inl ⟨⟨fields, table, clauses⟩, closing, horder, hclosed, rfl⟩
          · exact .inr hidle
    · rw [Grammar.arrive_cons_of_nowhere]
      · exact .inr hwired.fields_idle
      · apply hwired.fields_offer.nowhere
        rintro slot hslot rfl
        exact htoken (by rw [List.mem_singleton.mp hslot])

end Wired

end CommandGrammar.Select
