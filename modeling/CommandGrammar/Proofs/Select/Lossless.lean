import CommandGrammar.Proofs.Select.Texts

/-! # Nothing significant is lost

White space and semicolons separate tokens. Every other character of a text stands in exactly one
of its tokens: a search passes only separators, a match begins at the first character that is
none, and what it holds behind its token are semicolons.
-/

namespace CommandGrammar

namespace Select

open Search Unicode
open Text (Span)

variable {text : Array Char} {position : Nat}

/-- A character that belongs into a token. -/
def significant (c : Char) : Bool := !isWhiteSpace c && c != ';'

theorem contains_plain (c : Char) : plain.contains c = significant c := by
  rw [Bool.eq_iff_iff, plain_iff]
  simp [significant]

/-! ## Cutting everything -/

/-- At a significant character there is a token. -/
theorem exists_preferred {c : Char} {rest : List Char}
    (hrest : text.toList.drop position = c :: rest) (hc : plain.contains c = true) :
    ∃ stop, preferred text alternatives position = some stop := by
  have hplain : preferred text (run plain 1 true) position ≠ none := by
    rw [run, preferred_greedy (asSet?_oneOf plain), runLength_eq hrest,
      List.takeWhile_cons_of_pos hc, if_pos (by simp)]
    exact Option.some_ne_none _
  have hsome : preferred text alternatives position ≠ none := by
    rw [alternatives, preferred_either, preferred_either, preferred_either]
    simp [hplain]
  exact Option.ne_none_iff_exists'.mp hsome

/-- From every position on, a text is cut into tokens. -/
theorem exists_cut (hposition : position ≤ text.size) : ∃ spans, Cut text position spans := by
  obtain ⟨left, hleft⟩ := Nat.exists_eq_add_of_le hposition
  -- Every token ends behind its beginning, so the induction is on what is left of the text.
  induction left using Nat.strong_induction_on generalizing position with
  | _ left ih =>
      cases hnext : (text.toList.drop position).find? plain.contains with
      | none =>
          refine ⟨[], .done fun c hc => ?_⟩
          exact Bool.eq_false_of_not_eq_true (List.find?_eq_none.mp hnext c hc)
      | some c =>
          obtain ⟨hc, gap, rest, hrest, hbefore⟩ := List.find?_eq_some_iff_append.mp hnext
          have hstart := drop_add hrest gap.length
          rw [List.drop_left] at hstart
          obtain ⟨stop, hpreferred⟩ := exists_preferred hstart hc
          obtain ⟨hlt, hle⟩ := preferred_alternatives_bounds hpreferred
          have hrun := runLength_le text (.single ';') stop
          have hbehind : stop + runLength text (.single ';') stop ≤ text.size := by omega
          obtain ⟨less, hless⟩ := Nat.exists_eq_add_of_le hbehind
          obtain ⟨spans, hspans⟩ := ih less (by omega) hbehind hless
          exact ⟨_, .token hrest (fun c hc => by simpa using hbefore c hc) hpreferred hspans⟩

/-! ## The whole text -/

/-- The text consists of the tokens in their order, with nothing but separators in front of them,
between them and behind them, and each token begins with a significant character. -/
inductive Spaced : List Char → List String → Prop
  | done {gap : List Char} (hgap : ∀ c ∈ gap, significant c = false) : Spaced gap []
  | token {gap token rest : List Char} {tokens : List String}
      (hgap : ∀ c ∈ gap, significant c = false)
      (hbegins : ∃ c, token.head? = some c ∧ significant c = true) (hrest : Spaced rest tokens) :
      Spaced (gap ++ (token ++ rest)) (String.ofList token :: tokens)

theorem Spaced.prepend {gap rest : List Char} {tokens : List String}
    (hgap : ∀ c ∈ gap, significant c = false) (hspaced : Spaced rest tokens) :
    Spaced (gap ++ rest) tokens := by
  cases hspaced with
  | done hrest =>
      exact .done fun c hc => (List.mem_append.mp hc).elim (hgap c) (hrest c)
  | token hbefore hbegins hrest =>
      rw [← List.append_assoc]
      exact .token (fun c hc => (List.mem_append.mp hc).elim (hgap c) (hbefore c)) hbegins hrest

/-- Without separators the tokens together are the text. -/
theorem Spaced.filter_join {rest : List Char} {tokens : List String}
    (hspaced : Spaced rest tokens) :
    (String.join tokens).toList.filter significant = rest.filter significant := by
  have hnone : ∀ gap : List Char, (∀ c ∈ gap, significant c = false) →
      gap.filter significant = [] :=
    fun gap hgap => List.filter_eq_nil_iff.mpr fun c hc => by simp [hgap c hc]
  induction hspaced with
  | done hgap => rw [hnone _ hgap]; rfl
  | @token gap token rest tokens hgap _ _ ih =>
      rw [String.toList_join] at ih ⊢
      rw [List.flatMap_cons, String.toList_ofList, List.filter_append, List.filter_append,
        List.filter_append, hnone gap hgap, ih, List.nil_append]

theorem semicolons_of_runLength (text : Array Char) (position : Nat) :
    ∀ c ∈ Span.slice text.toList ⟨position, position + runLength text (.single ';') position⟩,
      c = ';' := by
  intro c hc
  have hprefix :=
    List.takeWhile_prefix (CharSet.single ';').contains (l := text.toList.drop position)
  rw [Span.slice, Nat.add_sub_cancel_left, runLength, ← List.prefix_iff_eq_take.mp hprefix] at hc
  exact (contains_single_iff ';' c).mp (List.mem_takeWhile_imp hc)

/-- A text consists of the tokens that it is cut into. -/
theorem Cut.spaced {spans : List Span} (hcut : Cut text position spans) :
    Spaced (text.toList.drop position) (Span.texts text.toList spans) := by
  induction hcut with
  | @done position hgap =>
      refine .done fun c hc => ?_
      rw [← contains_plain]
      exact hgap c hc
  | @token position stop gap rest spans hrest hgap hpreferred _ ih =>
      obtain ⟨hlt, _⟩ := preferred_alternatives_bounds hpreferred
      have hstart := drop_add hrest gap.length
      rw [List.drop_left] at hstart
      -- The first character of the token is significant, or nothing would be preferred there.
      have hbegins : ∃ c, (Span.slice text.toList
          ⟨position + gap.length, stop⟩).head? = some c ∧ significant c = true := by
        by_contra hnone
        have havoids : Avoids plain (text.toList.drop (position + gap.length)) := by
          intro c hc
          rw [contains_plain, ← Bool.not_eq_true]
          refine fun hsignificant => hnone ⟨c, ?_, hsignificant⟩
          rw [Span.slice, List.head?_take, if_neg (Nat.sub_ne_zero_of_lt hlt), hc]
        rw [preferred_alternatives_eq_none rfl havoids] at hpreferred
        simp at hpreferred
      have hsplit : text.toList.drop position =
          gap ++ (Span.slice text.toList ⟨position + gap.length, stop⟩ ++
            (Span.slice text.toList ⟨stop, stop + runLength text (.single ';') stop⟩ ++
              text.toList.drop (stop + runLength text (.single ';') stop))) := by
        rw [Span.slice_append_drop (Nat.le_add_right _ _), Span.slice_append_drop hlt.le, hstart,
          hrest]
      rw [hsplit, Span.texts_cons hlt]
      refine .token (fun c hc => ?_) hbegins (ih.prepend fun c hc => ?_)
      · rw [← contains_plain]
        exact hgap c hc
      · rw [semicolons_of_runLength text stop c hc]
        rfl

/-- From every position on, the matches cut the rest of the text into tokens. -/
theorem exists_spaced_tiles (hposition : position ≤ text.size) :
    ∃ found, Tiles text lexicalExpr position found ∧
      Spaced (text.toList.drop position)
        (Span.texts text.toList (found.filterMap (·.group? lexicalGroup))) := by
  obtain ⟨spans, hcut⟩ := exists_cut hposition
  obtain ⟨found, htiles, hspans⟩ := hcut.tiles
  exact ⟨found, htiles, hspans ▸ hcut.spaced⟩

/-- The tokenizer of statements loses nothing: for every text, the tokens together are the text,
up to white space and semicolons. The text consists of its tokens in their order, with only white
space and semicolons between them. -/
theorem tokenizer_loses_nothing {cache : PatternCache} (hcache : cache.Faithful) :
    ∃ tokenizer, (Select.tokenizer cache).1 = .ok tokenizer ∧
      ∀ command : String,
        (String.join (tokenizer.tokenize command)).toList.filter significant =
          command.toList.filter significant ∧
        Spaced command.toList (tokenizer.tokenize command) := by
  refine ⟨_, tokenizer_eq hcache, fun command => ?_⟩
  obtain ⟨found, htiles, hspaced⟩ := exists_spaced_tiles (Nat.zero_le command.toList.toArray.size)
  have htokens : (Tokenizer.extraction ⟨lexicalPattern, lexicalExpr⟩ lexicalGroup).tokenize
      command = Span.texts command.toList (found.filterMap (·.group? lexicalGroup)) := by
    rw [Tokenizer.tokenize, Tokenizer.spans, Pattern.findAll, htiles.findAll_eq]
  rw [htokens]
  exact ⟨hspaced.filter_join, hspaced⟩

/-- A semicolon inside a word, a phrase with a wide gap, and semicolons at both ends. -/
theorem tokenizer_loses_nothing_phrase :
    PatternCache.empty.Faithful ∧
      ∃ tokenizer, (Select.tokenizer .empty).1 = .ok tokenizer ∧
        (String.join (tokenizer.tokenize "; select a;b from t order  by c;; ")).toList.filter
          significant = "selectabfromtorderbyc".toList := by
  have hfaithful := PatternCache.Faithful.empty
  obtain ⟨tokenizer, hmade, hall⟩ := tokenizer_loses_nothing hfaithful
  refine ⟨hfaithful, tokenizer, hmade, ?_⟩
  rw [(hall _).1]
  decide +kernel

end Select

end CommandGrammar
