import CommandGrammar.Proofs.Select.Lossless

/-! # The forms of tokens

Every token has one of four forms: a field behind `distinct`, a word with `by`, three numbers, or a
plain run of significant characters. A field and a plain run go as far as their characters do, so
they end where a word ends. A word with `by` ends behind `by`, whatever comes next. Of the four
forms only the field may hold a semicolon.
-/

namespace CommandGrammar

namespace Select

open Search Unicode
open Text (Span)

variable {text : Array Char} {position start middle stop : Nat}

/-! ## What stands between two positions -/

/-- The characters stand in the text between two positions. -/
structure Stands (text : Array Char) (start stop : Nat) (chars : List Char) : Prop where
  stop_eq : stop = start + chars.length
  drop_eq : text.toList.drop start = chars ++ text.toList.drop stop

namespace Stands

variable {chars more : List Char}

theorem append (hfirst : Stands text start middle chars) (hsecond : Stands text middle stop more) :
    Stands text start stop (chars ++ more) where
  stop_eq := by rw [hsecond.stop_eq, hfirst.stop_eq, List.length_append, Nat.add_assoc]
  drop_eq := by rw [hfirst.drop_eq, hsecond.drop_eq, List.append_assoc]

theorem slice_eq (hstands : Stands text start stop chars) :
    Span.slice text.toList ⟨start, stop⟩ = chars := by
  rw [Span.slice, hstands.drop_eq, hstands.stop_eq, Nat.add_sub_cancel_left, List.take_left]

end Stands

section Runs

variable {set : CharSet} {least count : Nat} {greedy : Bool} {second : Expr}

/-- A part of a run consists of characters of its set. -/
theorem exists_stands_of_le_runLength (hcount : count ≤ runLength text set position) :
    ∃ chars, Stands text position (position + count) chars ∧ chars.length = count ∧
      ∀ c ∈ chars, set.contains c = true := by
  let rest := text.toList.drop position
  have hrest : text.toList.drop position =
      rest.takeWhile set.contains ++ rest.dropWhile set.contains :=
    List.takeWhile_append_dropWhile.symm
  have hlength : ((rest.takeWhile set.contains).take count).length = count :=
    List.length_take_of_le hcount
  refine ⟨_, ⟨by rw [hlength], ?_⟩, hlength, fun c hc => ?_⟩
  · rw [drop_add hrest, List.drop_append_of_le_length hcount, ← List.append_assoc,
      List.take_append_drop]
    exact hrest
  · exact List.mem_takeWhile_imp (List.mem_of_mem_take hc)

theorem exists_stands_run_seq
    (hpreferred : preferred text (.seq (run set least greedy) second) position = some stop) :
    ∃ middle chars, Stands text position middle chars ∧ least ≤ chars.length ∧
      (∀ c ∈ chars, set.contains c = true) ∧ preferred text second middle = some stop := by
  rw [run, preferred_repeated_seq (asSet?_oneOf set)] at hpreferred
  obtain ⟨count, hcount, hsecond⟩ := List.exists_of_findSome?_eq_some hpreferred
  obtain ⟨hleast, hmost⟩ := mem_lengths_iff.mp hcount
  obtain ⟨chars, hstands, hlength, hset⟩ := exists_stands_of_le_runLength hmost
  exact ⟨_, chars, hstands, by rwa [hlength], hset, hsecond⟩

/-- A greedy run ends where no character of its set follows. -/
theorem exists_stands_run (hpreferred : preferred text (run set 1 true) position = some stop) :
    ∃ chars, Stands text position stop chars ∧ chars ≠ [] ∧ (∀ c ∈ chars, set.contains c = true) ∧
      Avoids set (text.toList.drop stop) := by
  rw [run, preferred_greedy (asSet?_oneOf set)] at hpreferred
  obtain ⟨hleast, rfl⟩ : 1 ≤ runLength text set position ∧
      position + runLength text set position = stop := by simpa using hpreferred
  obtain ⟨chars, hstands, hlength, hset⟩ := exists_stands_of_le_runLength (Nat.le_refl _)
  refine ⟨chars, hstands, List.ne_nil_of_length_pos (by omega), hset, fun c hc => ?_⟩
  have hrest : text.toList.drop position =
      (text.toList.drop position).takeWhile set.contains ++
        (text.toList.drop position).dropWhile set.contains :=
    List.takeWhile_append_dropWhile.symm
  rw [drop_add hrest, runLength, List.drop_left] at hc
  have hhead := List.head?_dropWhile_not set.contains (text.toList.drop position)
  rw [hc] at hhead
  simpa using hhead

/-- A literal stands in the text wherever it matches. -/
theorem stands_literal {chars : List Char} {way : Way}
    (hway : way ∈ ways text (.literal chars) position) : Stands text position way.stop chars := by
  obtain ⟨⟨rest, hrest⟩, rfl⟩ := mem_ways_literal_iff.mp hway
  refine ⟨rfl, ?_⟩
  rw [drop_add hrest.symm, List.drop_left, hrest]

end Runs

/-! ## The four forms -/

/-- A run of characters of a kind: at least one, and all of them. -/
structure RunOf (kind : Char → Bool) (chars : List Char) : Prop where
  ne_nil : chars ≠ []
  all : ∀ c ∈ chars, kind c = true

theorem runOf_of_length {set : CharSet} {chars : List Char} (hlength : 1 ≤ chars.length)
    (hset : ∀ c ∈ chars, set.contains c = true) : RunOf set.contains chars :=
  ⟨List.ne_nil_of_length_pos hlength, hset⟩

/-- The token is `distinct`, in small or capital letters, and the field behind it. -/
def DistinctPhrase (token field : List Char) : Prop :=
  ∃ keyword gap, token = keyword ++ (gap ++ field) ∧
    keyword ∈ ["distinct".toList, "DISTINCT".toList] ∧ RunOf isWhiteSpace gap ∧
      RunOf (!isWhiteSpace ·) field

/-- The token is a word with `by` behind it. -/
def ByPhrase (token : List Char) : Prop :=
  ∃ word gap, token = word ++ (gap ++ "by".toList) ∧ RunOf isWord word ∧ RunOf isWhiteSpace gap

/-- The token consists of three numbers, with or without white space between them. -/
def ThreeNumbers (token : List Char) : Prop :=
  ∃ first gap second space third, token = first ++ (gap ++ (second ++ (space ++ third))) ∧
    RunOf isDecimalDigit first ∧ (∀ c ∈ gap, isWhiteSpace c = true) ∧
      RunOf isDecimalDigit second ∧ (∀ c ∈ space, isWhiteSpace c = true) ∧
        RunOf isDecimalDigit third

/-- Apart from white space, a word with `by` consists of characters of words. -/
theorem ByPhrase.isWord_of_mem {token : List Char} (hphrase : ByPhrase token) {c : Char}
    (hc : c ∈ token) (hblank : isWhiteSpace c = false) : isWord c = true := by
  obtain ⟨word, gap, rfl, hword, hgap⟩ := hphrase
  have hby : ∀ c ∈ "by".toList, isWord c = true := List.all_eq_true.mp (by decide)
  simp only [List.mem_append] at hc
  rcases hc with hc | hc | hc
  · exact hword.all c hc
  · simp [hgap.all c hc] at hblank
  · exact hby c hc

/-- Apart from white space, three numbers consist of digits. -/
theorem ThreeNumbers.isDecimalDigit_of_mem {token : List Char} (hnumbers : ThreeNumbers token)
    {c : Char} (hc : c ∈ token) (hblank : isWhiteSpace c = false) : isDecimalDigit c = true := by
  obtain ⟨first, gap, second, space, third, rfl, hfirst, hgap, hsecond, hspace, hthird⟩ := hnumbers
  simp only [List.mem_append] at hc
  rcases hc with hc | hc | hc | hc | hc
  · exact hfirst.all c hc
  · simp [hgap c hc] at hblank
  · exact hsecond.all c hc
  · simp [hspace c hc] at hblank
  · exact hthird.all c hc

/-- What a token looks like that stands in front of the rest of a text. -/
inductive Form (token rest : List Char) : Prop
  | distinctPhrase {field : List Char} (hphrase : DistinctPhrase token field)
      (hends : Avoids visible rest)
  | byPhrase (hphrase : ByPhrase token)
  | numbers (hnumbers : ThreeNumbers token) (hends : Avoids digit rest)
  | plain (hchars : RunOf significant token) (hends : Avoids plain rest)

theorem form_of_distinctPhrase (hpreferred : preferred text distinctPhrase start = some stop) :
    ∃ token, Stands text start stop token ∧ Form token (text.toList.drop stop) := by
  rw [distinctPhrase, preferred_seq] at hpreferred
  obtain ⟨way, hway, hbehind⟩ := List.exists_of_findSome?_eq_some hpreferred
  obtain ⟨keyword, hkeyword, hstands⟩ :
      ∃ keyword ∈ ["distinct".toList, "DISTINCT".toList], Stands text start way.stop keyword := by
    rw [ways] at hway
    rcases List.mem_append.mp hway with hway | hway
    · exact ⟨_, List.mem_cons_self, stands_literal hway⟩
    · exact ⟨_, by simp, stands_literal hway⟩
  obtain ⟨middle, gap, hgap, hleast, hblank, hfield⟩ := exists_stands_run_seq hbehind
  obtain ⟨field, hlast, hne, hvisible, hends⟩ := exists_stands_run hfield
  have hphrase : DistinctPhrase (keyword ++ (gap ++ field)) field :=
    ⟨keyword, gap, rfl, hkeyword, runOf_of_length hleast hblank, hne, hvisible⟩
  exact ⟨_, hstands.append (hgap.append hlast), .distinctPhrase hphrase hends⟩

theorem form_of_byPhrase (hpreferred : preferred text byPhrase start = some stop) :
    ∃ token, Stands text start stop token ∧ Form token (text.toList.drop stop) := by
  obtain ⟨middle, word, hword, hleast, hletters, hbehind⟩ := exists_stands_run_seq hpreferred
  obtain ⟨last, gap, hgap, hsome, hblank, hliteral⟩ := exists_stands_run_seq hbehind
  obtain ⟨way, hway, rfl⟩ := exists_way_of_preferred hliteral
  refine ⟨_, hword.append (hgap.append (stands_literal hway)), .byPhrase ?_⟩
  exact ⟨word, gap, rfl, runOf_of_length hleast hletters, runOf_of_length hsome hblank⟩

theorem form_of_numbers (hpreferred : preferred text numbers start = some stop) :
    ∃ token, Stands text start stop token ∧ Form token (text.toList.drop stop) := by
  obtain ⟨_, first, hfirst, hleast, hdigits, hbehind⟩ := exists_stands_run_seq hpreferred
  obtain ⟨_, gap, hgap, _, hblank, hbehind⟩ := exists_stands_run_seq hbehind
  obtain ⟨_, second, hsecond, hsome, hmore, hbehind⟩ := exists_stands_run_seq hbehind
  obtain ⟨_, space, hspace, _, hwhite, hbehind⟩ := exists_stands_run_seq hbehind
  obtain ⟨third, hthird, hne, hlast, hends⟩ := exists_stands_run hbehind
  refine ⟨_, hfirst.append (hgap.append (hsecond.append (hspace.append hthird))),
    .numbers ?_ hends⟩
  exact ⟨first, gap, second, space, third, rfl, runOf_of_length hleast hdigits, hblank,
    runOf_of_length hsome hmore, hwhite, hne, hlast⟩

theorem form_of_plain (hpreferred : preferred text (run plain 1 true) start = some stop) :
    ∃ token, Stands text start stop token ∧ Form token (text.toList.drop stop) := by
  obtain ⟨token, hstands, hne, hplain, hends⟩ := exists_stands_run hpreferred
  refine ⟨token, hstands, .plain ⟨hne, fun c hc => ?_⟩ hends⟩
  rw [← contains_plain]
  exact hplain c hc

/-- Whatever is preferred has one of the four forms. -/
theorem form_of_preferred (hpreferred : preferred text alternatives start = some stop) :
    ∃ token, Stands text start stop token ∧ Form token (text.toList.drop stop) := by
  rw [alternatives, preferred_either, preferred_either, preferred_either, Option.or_eq_some_iff,
    Option.or_eq_some_iff, Option.or_eq_some_iff] at hpreferred
  rcases hpreferred with hdistinct | ⟨_, hby | ⟨_, hnumbers | ⟨_, hplain⟩⟩⟩
  · exact form_of_distinctPhrase hdistinct
  · exact form_of_byPhrase hby
  · exact form_of_numbers hnumbers
  · exact form_of_plain hplain

/-- Every token that a text is cut into has one of the four forms. -/
theorem Cut.form_of_mem {spans : List Span} (hcut : Cut text position spans) {span : Span}
    (hspan : span ∈ spans) :
    span.start < span.stop ∧ Form (span.slice text.toList) (text.toList.drop span.stop) := by
  induction hcut with
  | done => simp at hspan
  | @token position stop gap rest spans _ _ hpreferred _ ih =>
      rcases List.mem_cons.mp hspan with rfl | hmore
      · obtain ⟨token, hstands, hform⟩ := form_of_preferred hpreferred
        rw [hstands.slice_eq]
        exact ⟨(preferred_alternatives_bounds hpreferred).1, hform⟩
      · exact ih hmore

/-! ## Semicolons -/

/-- A semicolon stands in a token only as a part of the field behind `distinct`. -/
theorem Form.semicolon_mem_iff {token rest : List Char} (hform : Form token rest) :
    ';' ∈ token ↔ ∃ field, DistinctPhrase token field ∧ ';' ∈ field := by
  constructor
  · intro hsemicolon
    have hblank : isWhiteSpace ';' = false := by decide
    have hletter : isWord ';' = false := by decide
    have hdigit : isDecimalDigit ';' = false := by decide
    cases hform with
    | @distinctPhrase field hphrase =>
        refine ⟨field, hphrase, ?_⟩
        obtain ⟨keyword, gap, rfl, hkeyword, hgap, -⟩ := hphrase
        rcases List.mem_append.mp hsemicolon with hhere | hhere
        · rcases List.mem_pair.mp hkeyword with rfl | rfl <;> simp at hhere
        rcases List.mem_append.mp hhere with hhere | hhere
        · simp [hgap.all _ hhere] at hblank
        · exact hhere
    | byPhrase hphrase =>
        rw [hphrase.isWord_of_mem hsemicolon hblank] at hletter
        simp at hletter
    | numbers hnumbers =>
        rw [hnumbers.isDecimalDigit_of_mem hsemicolon hblank] at hdigit
        simp at hdigit
    | plain hchars =>
        have hsignificant := hchars.all _ hsemicolon
        simp [significant] at hsignificant
  · rintro ⟨field, ⟨keyword, gap, rfl, -⟩, hsemicolon⟩
    simp [hsemicolon]

/-- Every token of a command has one of the four forms. -/
theorem exists_form_of_mem_tokenize {command token : String}
    (htoken : token ∈ (Tokenizer.extraction ⟨lexicalPattern, lexicalExpr⟩
      lexicalGroup).tokenize command) : ∃ rest, Form token.toList rest := by
  obtain ⟨spans, hcut⟩ := exists_cut (Nat.zero_le command.toList.toArray.size)
  rw [hcut.tokenize_eq] at htoken
  obtain ⟨span, hspan, rfl⟩ := List.mem_map.mp htoken
  obtain ⟨_, hform⟩ := hcut.form_of_mem (List.mem_of_mem_filter hspan)
  rw [String.toList_ofList]
  exact ⟨_, hform⟩

/-- Behind `distinct` a semicolon is taken for a part of the field, at the end of a text as well. -/
theorem tokenize_distinct_name :
    (Tokenizer.extraction ⟨lexicalPattern, lexicalExpr⟩ lexicalGroup).tokenize
      "select distinct name;" = ["select", "distinct name;"] := by
  let text := "select distinct name;".toList.toArray
  have hfind (start : Nat) : find? text lexicalExpr start = _ := find?_eq flat_lexicalExpr start
  have htiles : Tiles text lexicalExpr 0
      [⟨⟨0, 6⟩, [(1, ⟨0, 6⟩)]⟩, ⟨⟨7, 21⟩, [(1, ⟨7, 21⟩)]⟩] :=
    .next ((hfind 0).trans (by decide)) (by decide) (by decide)
      (.next ((hfind 6).trans (by decide)) (by decide) (by decide)
        (.done ((hfind 21).trans (by decide))))
  rw [Tokenizer.tokenize, spans_of_tiles htiles]
  decide

/-- A token holds a semicolon exactly if it is `distinct` with a field that holds one. All other
tokens are free of semicolons, whatever the text. -/
theorem tokenizer_semicolons {cache : PatternCache} (hcache : cache.Faithful) :
    ∃ tokenizer, (Select.tokenizer cache).1 = .ok tokenizer ∧
      ∀ command : String, ∀ token ∈ tokenizer.tokenize command,
        (';' ∈ token.toList ↔ ∃ field, DistinctPhrase token.toList field ∧ ';' ∈ field) := by
  refine ⟨_, tokenizer_eq hcache, fun command token htoken => ?_⟩
  obtain ⟨rest, hform⟩ := exists_form_of_mem_tokenize htoken
  exact hform.semicolon_mem_iff

/-- The field of `distinct name;` holds the semicolon, since the token does. -/
theorem tokenizer_semicolons_distinct_name :
    PatternCache.empty.Faithful ∧
      ∃ tokenizer, (Select.tokenizer .empty).1 = .ok tokenizer ∧
        "distinct name;" ∈ tokenizer.tokenize "select distinct name;" ∧
        ∃ field, DistinctPhrase "distinct name;".toList field ∧ ';' ∈ field := by
  have hfaithful := PatternCache.Faithful.empty
  obtain ⟨tokenizer, hmade, hall⟩ := tokenizer_semicolons hfaithful
  obtain rfl := Except.ok.inj (hmade.symm.trans (tokenizer_eq hfaithful))
  have htoken : "distinct name;" ∈ (Tokenizer.extraction ⟨lexicalPattern, lexicalExpr⟩
      lexicalGroup).tokenize "select distinct name;" := by
    rw [tokenize_distinct_name]
    decide
  exact ⟨hfaithful, _, hmade, htoken, (hall _ _ htoken).mp (by decide)⟩

/-- The semicolon that terminates `select distinct name;` reaches the grammar. -/
theorem tokenizer_keeps_terminator :
    ∃ tokenizer, (Select.tokenizer .empty).1 = .ok tokenizer ∧
      ∃ token ∈ tokenizer.tokenize "select distinct name;", ';' ∈ token.toList := by
  refine ⟨_, tokenizer_eq .empty, "distinct name;", ?_, by decide⟩
  rw [tokenize_distinct_name]
  decide

end Select

end CommandGrammar
