import CommandGrammar.Proofs.Select.Lexing
import CommandGrammar.Proofs.Select.Sessions

/-! # Statements as texts

A statement can be written with any white space between its lexemes and any number of semicolons
behind the last one. If its values are clean, the tokenizer of statements cuts the text into the
tokens of the statement, and the template runs it.
-/

namespace CommandGrammar

namespace Select

open Search Unicode

theorem tokenizer_eq {cache : PatternCache} (hcache : cache.Faithful) :
    (tokenizer cache).1 = .ok (.extraction ⟨lexicalPattern, lexicalExpr⟩ lexicalGroup) := by
  have hread := hcache.compile_eq_ok read_lexicalPattern
  have hgroup : lexicalGroup < Pattern.groupCount ⟨lexicalPattern, lexicalExpr⟩ := by decide
  unfold tokenizer tokenizerWith Tokenizer.makeWith
  simp [hread, hgroup]

/-! ## Writing -/

/-- A text of lexemes in their order, with white space between them and semicolons behind the last
one. -/
inductive Written : List String → List Char → Prop
  | last (lexeme : String) (count : Nat) :
      Written [lexeme] (lexeme.toList ++ List.replicate count ';')
  | next {lexeme : String} {gap text : List Char} {others : List String} (hne : gap ≠ [])
      (hgap : ∀ c ∈ gap, isWhiteSpace c = true) (hothers : Written others text) :
      Written (lexeme :: others) (lexeme.toList ++ (gap ++ text))

/-- A string that can be written as a value: it is not empty, holds neither white space nor a
semicolon, begins neither with a decimal digit nor with `by`, and is not spelled `distinct`. -/
@[mk_iff]
structure CleanWord (word : String) : Prop where
  ne_empty : word ≠ ""
  no_blank : ∀ c ∈ word.toList, isWhiteSpace c = false
  no_semicolon : ∀ c ∈ word.toList, c ≠ ';'
  no_digit : ∀ c ∈ word.toList.head?, isDecimalDigit c = false
  no_by : ¬ "by".toList <+: word.toList
  ne_distinct : word ≠ "distinct"
  ne_upper_distinct : word ≠ "DISTINCT"

instance (word : String) : Decidable (CleanWord word) :=
  decidable_of_iff (word ≠ "" ∧ word.toList.all (!isWhiteSpace ·) = true ∧
      word.toList.all (· != ';') = true ∧ word.toList.head?.all (!isDecimalDigit ·) = true ∧
      ¬ "by".toList <+: word.toList ∧ word ≠ "distinct" ∧ word ≠ "DISTINCT")
    (by simp [cleanWord_iff, Option.all_eq_true])

/-- A clean word, or `distinct` and a clean word. -/
def CleanFields (fields : String) : Prop :=
  CleanWord fields ∨ ∃ word, CleanWord word ∧ fields = "distinct " ++ word

/-- A number without a sign. -/
def PlainNumber (number : String) : Prop :=
  number ≠ "" ∧ ∀ c ∈ number.toList, c.isDigit = true

instance (number : String) : Decidable (PlainNumber number) :=
  decidable_of_iff (number ≠ "" ∧ number.toList.all Char.isDigit = true) (by simp [PlainNumber])

/-- What can be written in a slot. -/
def CleanValue (slot : Slot) (value : String) : Prop :=
  if slot = .range then PlainNumber value else CleanWord value

instance (slot : Slot) (value : String) : Decidable (CleanValue slot value) :=
  inferInstanceAs (Decidable (ite _ _ _))

/-- All values of the statement can be written. -/
structure Statement.Clean (statement : Statement) : Prop where
  fields : CleanFields statement.fields
  table : CleanWord statement.table
  clauses : ∀ clause ∈ statement.clauses, CleanValue clause.1 clause.2

/-! ## Reading what was written -/

/-- The beginning of a lexeme ends a word in front of it. -/
structure Begins (lexeme : String) : Prop where
  head_plain : ∃ c others, lexeme.toList = c :: others ∧ plain.contains c = true
  not_by : ¬ "by".toList <+: lexeme.toList

theorem Begins.ne_nil {lexeme : String} (hbegins : Begins lexeme) : lexeme.toList ≠ [] := by
  obtain ⟨c, others, hlexeme, _⟩ := hbegins.head_plain
  simp [hlexeme]

/-- The lexemes can be written one after the other: each is read as a whole in front of white
space that ends a word, and the last one in front of semicolons. -/
inductive Readable : List String → Prop
  | last {lexeme : String} (hbegins : Begins lexeme)
      (hreads : ∀ count, Reads lexeme.toList (List.replicate count ';')) : Readable [lexeme]
  | next {lexeme : String} {others : List String} (hbegins : Begins lexeme)
      (hreads : ∀ rest, Avoids visible rest → EndsWord rest → Reads lexeme.toList rest)
      (hothers : Readable others) : Readable (lexeme :: others)

theorem eq_of_head?_replicate {count : Nat} {c : Char}
    (hhead : (List.replicate count ';').head? = some c) : c = ';' :=
  List.eq_of_mem_replicate (List.mem_of_head? hhead)

theorem not_by_append {lexeme rest : List Char} (hne : lexeme ≠ [])
    (hby : ¬ "by".toList <+: lexeme) (havoids : Avoids plain rest) :
    ¬ "by".toList <+: lexeme ++ rest := by
  intro hbeginning
  rcases lexeme with _ | ⟨first, _ | ⟨second, others⟩⟩
  · exact hne rfl
  · -- One character and a boundary cannot make up `by`.
    have hbehind : ['y'] <+: rest := (List.cons_prefix_cons.mp hbeginning).2
    obtain ⟨behind, rfl⟩ := hbehind
    exact absurd (havoids 'y' rfl) (by decide)
  · obtain ⟨hfirst, hrest⟩ := List.cons_prefix_cons.mp hbeginning
    obtain ⟨hsecond, _⟩ := List.cons_prefix_cons.mp hrest
    exact hby (by rw [← hfirst, ← hsecond]; exact ⟨others, rfl⟩)

theorem avoids_plain_of_gap {gap text : List Char} (hne : gap ≠ [])
    (hgap : ∀ c ∈ gap, isWhiteSpace c = true) : Avoids plain (gap ++ text) := by
  cases gap with
  | nil => exact absurd rfl hne
  | cons c others =>
      have hblank := hgap c (by simp)
      refine avoids_cons ?_ _
      rw [← Bool.not_eq_true, plain_iff, hblank]
      simp

theorem avoids_visible_of_gap {gap text : List Char} (hne : gap ≠ [])
    (hgap : ∀ c ∈ gap, isWhiteSpace c = true) : Avoids visible (gap ++ text) := by
  cases gap with
  | nil => exact absurd rfl hne
  | cons c others =>
      have hblank : blank.contains c = true := hgap c (by simp)
      exact avoids_cons (by simp [visible, CharSet.contains, hblank]) _

/-- White space ends a word if `by` does not come behind it. -/
theorem endsWord_of_gap {gap rest : List Char} (hne : gap ≠ [])
    (hgap : ∀ c ∈ gap, isWhiteSpace c = true) (havoids : Avoids blank rest)
    (hby : ¬ "by".toList <+: rest) : EndsWord (gap ++ rest) := by
  have hskip : (gap ++ rest).dropWhile isWhiteSpace = rest := by
    rw [List.dropWhile_append_of_pos hgap]
    cases rest with
    | nil => rfl
    | cons c others =>
        have hblank : isWhiteSpace c = false := havoids c rfl
        rw [List.dropWhile_cons_of_neg (by simp [hblank])]
  exact ⟨avoids_plain_of_gap hne hgap, by rwa [hskip]⟩

/-- What begins with a lexeme ends a word in front of it, if the lexeme itself ends there. -/
theorem Begins.append {lexeme : String} {rest : List Char} (hbegins : Begins lexeme)
    (havoids : Avoids plain rest) :
    (∃ c others, lexeme.toList ++ rest = c :: others ∧ plain.contains c = true) ∧
      ¬ "by".toList <+: lexeme.toList ++ rest := by
  obtain ⟨c, others, hlexeme, hplain⟩ := hbegins.head_plain
  exact ⟨⟨c, others ++ rest, by rw [hlexeme]; rfl, hplain⟩,
    not_by_append hbegins.ne_nil hbegins.not_by havoids⟩

theorem Lexed.prepend {rest gap : List Char} {tokens : List String} (hlexed : Lexed rest tokens)
    (hgap : ∀ c ∈ gap, isWhiteSpace c = true) : Lexed (gap ++ rest) tokens := by
  cases hlexed with
  | done hrest => exact .done (List.forall_mem_append.mpr ⟨hgap, hrest⟩)
  | lexeme hbefore hne hreads hsemicolons hclosed hrest =>
      rw [← List.append_assoc]
      have hall := List.forall_mem_append.mpr ⟨hgap, hbefore⟩
      exact .lexeme hall hne hreads hsemicolons hclosed hrest

/-- A text that ends a word in front of white space in front of it, with the tokens that it is cut
into. -/
structure Continues (text : List Char) (tokens : List String) : Prop where
  lexed : Lexed text tokens
  head_plain : ∃ c others, text = c :: others ∧ plain.contains c = true
  not_by : ¬ "by".toList <+: text

namespace Continues

variable {lexeme : String} {gap text : List Char} {tokens : List String}

theorem endsWord (hcontinues : Continues text tokens) (hne : gap ≠ [])
    (hgap : ∀ c ∈ gap, isWhiteSpace c = true) : EndsWord (gap ++ text) := by
  obtain ⟨c, others, rfl, hplain⟩ := hcontinues.head_plain
  have havoids := avoids_cons (not_blank_of_plain hplain) others
  exact endsWord_of_gap hne hgap havoids hcontinues.not_by

theorem of_begins (hlexed : Lexed (lexeme.toList ++ text) tokens) (hbegins : Begins lexeme)
    (havoids : Avoids plain text) : Continues (lexeme.toList ++ text) tokens := by
  obtain ⟨hhead, hby⟩ := hbegins.append havoids
  exact ⟨hlexed, hhead, hby⟩

/-- A last lexeme with semicolons behind it. -/
theorem last {count : Nat} (hbegins : Begins lexeme)
    (hreads : Reads lexeme.toList (List.replicate count ';')) :
    Continues (lexeme.toList ++ List.replicate count ';') [lexeme] := by
  rw [← List.append_nil (List.replicate count ';')] at hreads
  have hlexed : Lexed ([] ++ (lexeme.toList ++ (List.replicate count ';' ++ [])))
      [String.ofList lexeme.toList] :=
    .lexeme (by simp) hbegins.ne_nil hreads (fun c hc => (List.mem_replicate.mp hc).2) (by simp)
      (.done (by simp))
  exact .of_begins (by simpa using hlexed) hbegins
    (avoids_of_semicolon (by decide) fun _ => eq_of_head?_replicate)

/-- One more lexeme with white space behind it. -/
theorem next (hcontinues : Continues text tokens) (hne : gap ≠ [])
    (hgap : ∀ c ∈ gap, isWhiteSpace c = true) (hbegins : Begins lexeme)
    (hreads : Reads lexeme.toList (gap ++ text)) :
    Continues (lexeme.toList ++ (gap ++ text)) (lexeme :: tokens) := by
  have hclosed : (gap ++ text).head? ≠ some ';' := by
    rw [List.head?_append_of_ne_nil _ hne]
    intro hsemicolon
    exact absurd (hgap _ (List.mem_of_head? hsemicolon)) (by decide)
  have hlexed : Lexed ([] ++ (lexeme.toList ++ ([] ++ (gap ++ text))))
      (String.ofList lexeme.toList :: tokens) :=
    .lexeme (by simp) hbegins.ne_nil hreads (by simp) hclosed (hcontinues.lexed.prepend hgap)
  exact .of_begins (by simpa using hlexed) hbegins (avoids_plain_of_gap hne hgap)

end Continues

/-- What was written is cut into the lexemes that it was written with. -/
theorem Written.continues {lexemes : List String} {text : List Char}
    (hwritten : Written lexemes text) (hreadable : Readable lexemes) : Continues text lexemes := by
  induction hwritten with
  | last lexeme count =>
      cases hreadable with
      | last hbegins hreads => exact .last hbegins (hreads count)
      | next _ _ hothers => cases hothers
  | next hne hgap hothers ih =>
      cases hreadable with
      | last => cases hothers
      | next hbegins hreads hrest =>
          have hcontinues := ih hrest
          have hends := hcontinues.endsWord hne hgap
          exact hcontinues.next hne hgap hbegins (hreads _ (avoids_visible_of_gap hne hgap) hends)

/-! ## Reading values and keywords -/

section Values

variable {word number : String} {rest : List Char}

theorem CleanWord.toWord (hclean : CleanWord word) : Word word.toList where
  ne_nil := by simpa using hclean.ne_empty
  all_plain c hc := plain_iff.mpr ⟨hclean.no_blank c hc, hclean.no_semicolon c hc⟩
  ne_distinct := fun hword => hclean.ne_distinct (String.toList_injective hword)
  ne_upper_distinct := fun hword => hclean.ne_upper_distinct (String.toList_injective hword)

theorem CleanWord.reads (hclean : CleanWord word) (hends : EndsWord rest) :
    Reads word.toList rest :=
  hclean.toWord.reads hclean.no_digit hends

theorem CleanWord.begins (hclean : CleanWord word) : Begins word where
  head_plain := by
    obtain ⟨c, others, hword⟩ := List.exists_cons_of_ne_nil hclean.toWord.ne_nil
    exact ⟨c, others, hword, hclean.toWord.all_plain c (by simp [hword])⟩
  not_by := hclean.no_by

theorem PlainNumber.all_digits (hnumber : PlainNumber number) :
    ∀ c ∈ number.toList, digit.contains c = true :=
  fun c hc => isDecimalDigit_of_isDigit (hnumber.2 c hc)

theorem PlainNumber.begins (hnumber : PlainNumber number) : Begins number := by
  have hne : number.toList ≠ [] := by simpa using hnumber.1
  obtain ⟨c, others, hcons⟩ := List.exists_cons_of_ne_nil hne
  have hfirst := hnumber.2 c (by simp [hcons])
  have hblank := not_blank_of_digit (isDecimalDigit_of_isDigit hfirst)
  refine ⟨⟨c, others, hcons, plain_iff.mpr ⟨hblank, ?_⟩⟩, ?_⟩
  · rintro rfl
    exact absurd hfirst (by decide)
  · intro hby
    rw [hcons] at hby
    obtain rfl : 'b' = c := (List.cons_prefix_cons.mp hby).1
    exact absurd hfirst (by decide)

theorem PlainNumber.reads (hnumber : PlainNumber number) (count : Nat) :
    Reads number.toList (List.replicate count ';') := by
  exact reads_number (by simpa using hnumber.1) hnumber.all_digits fun _ => eq_of_head?_replicate

theorem CleanFields.begins {fields : String} (hfields : CleanFields fields) : Begins fields := by
  rcases hfields with hclean | ⟨word, hclean, rfl⟩
  · exact hclean.begins
  · refine ⟨⟨'d', "istinct ".toList ++ word.toList, by simp, by decide⟩, ?_⟩
    rw [String.toList_append]
    intro hby
    exact absurd (List.cons_prefix_cons.mp hby).1 (by decide)

theorem CleanWord.all_visible (hclean : CleanWord word) :
    ∀ c ∈ word.toList, visible.contains c = true := by
  intro c hc
  simp [visible, CharSet.contains, not_blank_of_plain (hclean.toWord.all_plain c hc)]

theorem CleanFields.reads {fields : String} (hfields : CleanFields fields)
    (hvisible : Avoids visible rest) (hends : EndsWord rest) : Reads fields.toList rest := by
  rcases hfields with hclean | ⟨word, hclean, rfl⟩
  · exact hclean.reads hends
  · rw [String.toList_append]
    exact reads_distinctPhrase List.mem_cons_self hclean.toWord.ne_nil hclean.all_visible hvisible

end Values

/-! ## Reading statements -/

theorem Slot.keyword_begins (slot : Slot) : Begins slot.keyword := by
  cases slot with
  | table => exact CleanWord.begins (by decide)
  | condition => exact CleanWord.begins (by decide)
  | range => exact CleanWord.begins (by decide)
  | key =>
      exact ⟨⟨'g', "roup by".toList, by decide, by decide⟩, by decide⟩
  | field =>
      exact ⟨⟨'o', "rder by".toList, by decide, by decide⟩, by decide⟩

/-- Keywords of one word are read like clean words, and those with `by` as phrases. -/
theorem Slot.keyword_reads (slot : Slot) {rest : List Char} (hends : EndsWord rest) :
    Reads slot.keyword.toList rest := by
  have hword : ∀ word : String, CleanWord word → Reads word.toList rest :=
    fun _ hclean => hclean.reads hends
  have hphrase : ∀ word : String, CleanWord word →
      (∀ c ∈ word.toList, inWord.contains c = true) → Reads (word ++ " by").toList rest := by
    intro word hclean hletters
    rw [String.toList_append]
    exact reads_byPhrase hclean.toWord hletters rest
  cases slot with
  | table => exact hword "from" (by decide)
  | condition => exact hword "where" (by decide)
  | key => exact hphrase "group" (by decide) (List.all_eq_true.mp (by decide))
  | field => exact hphrase "order" (by decide) (List.all_eq_true.mp (by decide))
  | range => exact hword "limit" (by decide)

/-- Only the last slot holds a number. -/
theorem CleanValue.cleanWord {slot other : Slot} {value : String} (hclean : CleanValue slot value)
    (hbehind : slot.rank < other.rank) : CleanWord value := by
  have hslot : slot ≠ .range := by
    rintro rfl
    cases other <;> simp [Slot.rank] at hbehind
  rwa [CleanValue, if_neg hslot] at hclean

/-- A value and the clauses behind it can be written one after the other. -/
theorem readable_clauses {slot : Slot} {value : String} {clauses : List (Slot × String)}
    (horder : InOrder slot clauses) (hvalue : CleanValue slot value)
    (hclauses : ∀ clause ∈ clauses, CleanValue clause.1 clause.2) :
    Readable (value :: clauseTokens clauses) := by
  induction clauses generalizing slot value with
  | nil =>
      by_cases hslot : slot = .range
      · rw [CleanValue, if_pos hslot] at hvalue
        exact .last hvalue.begins hvalue.reads
      · rw [CleanValue, if_neg hslot] at hvalue
        exact .last hvalue.begins fun count =>
          hvalue.reads (endsWord_of_semicolon fun _ => eq_of_head?_replicate)
  | cons clause others ih =>
      obtain ⟨hbehind, hothers⟩ := inOrder_cons_iff.mp horder
      obtain ⟨hclause, hmore⟩ := List.forall_mem_cons.mp hclauses
      have hword := hvalue.cleanWord hbehind
      have hrest : Readable (clause.1.keyword :: clause.2 :: clauseTokens others) :=
        .next clause.1.keyword_begins (fun _ _ => clause.1.keyword_reads) (ih hothers hclause hmore)
      exact .next hword.begins (fun _ _ => hword.reads) hrest

theorem Statement.readable {statement : Statement} (hordered : statement.Ordered)
    (hclean : statement.Clean) : Readable statement.tokens := by
  have hselect : CleanWord "select" := by decide
  have htable : CleanValue .table statement.table := hclean.table
  have hclauses := readable_clauses hordered htable hclean.clauses
  have hfrom : Readable (Slot.table.keyword :: statement.table :: clauseTokens statement.clauses) :=
    .next Slot.table.keyword_begins (fun _ _ => Slot.table.keyword_reads) hclauses
  exact .next hselect.begins (fun _ _ => hselect.reads)
    (.next hclean.fields.begins (fun _ => hclean.fields.reads) hfrom)

/-- What a clean statement is written as is cut into its tokens. -/
theorem Statement.lexed {statement : Statement} (hordered : statement.Ordered)
    (hclean : statement.Clean) {text : List Char} (hwritten : Written statement.tokens text) :
    Lexed text statement.tokens :=
  (hwritten.continues (Statement.readable hordered hclean)).lexed

theorem closes_nil (slot : Slot) : Closes slot [] := by simp [Closes]

namespace Ready

variable {R : Type} {dispatcher : Dispatcher R} {store : StoreRef} {callbacks : Callbacks R}
  {base : Nat}

/-- A dispatcher that cuts commands like statements runs the statement that a text begins with. -/
theorem executes_lexed (hready : Ready dispatcher store callbacks base)
    (hempty : dispatcher.grammar.captured store = [])
    (htokenizer : dispatcher.tokenizer = .extraction ⟨lexicalPattern, lexicalExpr⟩ lexicalGroup)
    {statement : Statement} {rest : List String} (hordered : statement.Ordered)
    (hclosed : statement.ClosedBy rest) {text : String}
    (hlexed : Lexed text.toList (statement.tokens ++ rest)) :
    (dispatcher.run text).outcome =
      .executed (callbacks.at statement.last statement.values) := by
  have htokens : dispatcher.tokenizer.tokenize text = statement.tokens ++ rest := by
    rw [htokenizer, hlexed.tokenize_eq]
  simp only [Dispatcher.run, htokens]
  exact hready.executes hempty hordered hclosed

/-- It runs whatever a clean statement is written as. -/
theorem executes_text (hready : Ready dispatcher store callbacks base)
    (hempty : dispatcher.grammar.captured store = [])
    (htokenizer : dispatcher.tokenizer = .extraction ⟨lexicalPattern, lexicalExpr⟩ lexicalGroup)
    {statement : Statement} (hordered : statement.Ordered) (hclean : statement.Clean)
    {text : String} (hwritten : Written statement.tokens text.toList) :
    (dispatcher.run text).outcome =
      .executed (callbacks.at statement.last statement.values) := by
  have hlexed := Statement.lexed hordered hclean hwritten
  rw [← List.append_nil statement.tokens] at hlexed
  exact hready.executes_lexed hempty htokenizer hordered (closes_nil _) hlexed

end Ready

end Select

namespace Dispatcher

open Select

variable {R : Type}

/-- After the template was installed into a store that exists and the node that it returned was
registered for `select`, and as long as nothing else is constructed, the store reads empty and
commands are cut by the tokenizer of statements, running a text that a clean statement is written
as executes the callback of the last slot on exactly the values of the statement. -/
theorem Reachable.select_runs_texts {dispatcher : Dispatcher R} (hreach : dispatcher.Reachable)
    {store : StoreRef} (hstore : dispatcher.grammar.stores.contains store = true)
    {callbacks : List (Callback R)} (hcallbacks : callbackCount ≤ callbacks.length)
    {cache : PatternCache} (hcache : cache.Faithful) :
    let installed := dispatcher.perform (.installSelect store callbacks)
    ∃ root tokenizer, installed.response = .node root ∧
      (Select.tokenizer cache).1 = .ok tokenizer ∧
      ∀ registration : Operation R, registration.EntersSelect root →
        let registered := installed.dispatcher.perform registration
        registered.response = .done ∧
        registered.dispatcher.grammar.captured = dispatcher.grammar.captured ∧
        ∀ operations : List (Operation R),
          (∀ operation ∈ operations, operation.constructs = false) →
          let later := registered.dispatcher.afterAll operations
          later.grammar.captured store = [] → later.tokenizer = tokenizer →
          ∀ statement : Statement, statement.Ordered → statement.Clean →
          ∀ text : String, Written statement.tokens text.toList →
            ∃ callback, callbacks[statement.last.rank]? = some callback ∧
              (later.run text).outcome = .executed (callback statement.values) := by
  intro installed
  obtain ⟨hinstalled, hregisters⟩ := hreach.select_ready hstore hcallbacks
  refine ⟨_, _, hinstalled, tokenizer_eq hcache, fun registration henters => ?_⟩
  obtain ⟨hregistered, hcaptured, known, hslots, hready⟩ := hregisters registration henters
  refine ⟨hregistered, hcaptured, ?_⟩
  intro operations hkind later hempty htokenizer statement hordered hclean text hwritten
  refine ⟨_, hslots statement.last, ?_⟩
  exact (hready operations hkind).executes_text hempty htokenizer hordered hclean hwritten

theorem perform_setTokenizer (dispatcher : Dispatcher R) {strategy : Strategy} {source : String}
    {tokenizer : Tokenizer} (hmake : (Tokenizer.make .empty strategy source).1 = .ok tokenizer) :
    (dispatcher.perform (.setTokenizer strategy source)).dispatcher =
      { dispatcher with tokenizer } := by
  simp only [perform, hmake, performTokenizer]

/-- A statement with `distinct`, a wide gap, two clauses and two semicolons. -/
theorem select_runs_texts_grouped :
    oneStore.Reachable ∧ oneStore.grammar.stores.contains ⟨0⟩ = true ∧
      callbackCount ≤ labelled.length ∧ PatternCache.empty.Faithful ∧
      ∃ root, (oneStore.perform (.installSelect ⟨0⟩ labelled)).response = .node root ∧
        let later := ((oneStore.perform (.installSelect ⟨0⟩ labelled)).dispatcher.perform
          (.register root)).dispatcher.afterAll
            [.setTokenizer (.regexGroup lexicalGroup) lexicalPattern]
        later.grammar.captured ⟨0⟩ = [] ∧ (Select.tokenizer .empty).1 = .ok later.tokenizer ∧
          (later.run "select distinct name from  users group by city limit 12;;").outcome =
            .executed ("limit", ["distinct name", "users", "city", "12"]) := by
  have hreach : oneStore.Reachable := (Reachable.start _).afterAll _
  have hstore : oneStore.grammar.stores.contains ⟨0⟩ = true := by decide
  have hcallbacks : callbackCount ≤ labelled.length := by decide
  have hfaithful := PatternCache.Faithful.empty
  obtain ⟨root, tokenizer, hroot, htokenizer, hregisters⟩ :=
    hreach.select_runs_texts hstore hcallbacks hfaithful
  obtain ⟨_, hcaptured, hruns⟩ := hregisters _ (.inl rfl)
  refine ⟨hreach, hstore, hcallbacks, hfaithful, root, hroot, ?_⟩
  intro later
  let installed := (oneStore.perform (.installSelect ⟨0⟩ labelled)).dispatcher
  let registered := (installed.perform (.register root)).dispatcher
  have hlater : later = { registered with tokenizer } :=
    registered.perform_setTokenizer htokenizer
  have hempty : later.grammar.captured ⟨0⟩ = [] := by
    rw [hlater]
    exact (congrFun hcaptured ⟨0⟩).trans (by decide)
  have hcuts : later.tokenizer = tokenizer := by rw [hlater]
  refine ⟨hempty, hcuts ▸ htokenizer, ?_⟩
  let statement : Statement := ⟨"distinct name", "users", [(.key, "city"), (.range, "12")]⟩
  have hclean : statement.Clean :=
    ⟨.inr ⟨"name", by decide +kernel, rfl⟩, by decide +kernel, by decide +kernel⟩
  have hwritten : Written statement.tokens
      "select distinct name from  users group by city limit 12;;".toList := by
    have htext : "select distinct name from  users group by city limit 12;;".toList =
        "select".toList ++ ([' '] ++ ("distinct name".toList ++ ([' '] ++ ("from".toList ++
          ([' ', ' '] ++ ("users".toList ++ ([' '] ++ ("group by".toList ++ ([' '] ++
          ("city".toList ++ ([' '] ++ ("limit".toList ++ ([' '] ++ ("12".toList ++
          List.replicate 2 ';')))))))))))))) := by decide +kernel
    rw [htext]
    repeat' first
      | exact Written.last _ _
      | refine Written.next (by simp) (List.all_eq_true.mp (by decide +kernel)) ?_
  obtain ⟨callback, hcallback, houtcome⟩ := hruns _ (by simp [Operation.constructs]) hempty hcuts
    statement (by decide) hclean _ hwritten
  obtain rfl : (fun values => ("limit", values)) = callback := Option.some.inj hcallback
  exact houtcome

end Dispatcher

end CommandGrammar
