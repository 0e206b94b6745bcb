import CommandGrammar.Proofs.Select.Lexemes
import CommandGrammar.Proofs.Text.Spans

/-! # Cutting statements into tokens

A text of lexemes, each with white space before it and semicolons behind it, is cut into exactly
these lexemes: every search passes the white space, finds the next lexeme and takes its semicolons
along.
-/

namespace CommandGrammar.Select

open Search Unicode
open Text (Span)

variable {text : Array Char} {position : Nat}

/-! ## One match -/

theorem preferred_lexicalExpr_eq_none (hnone : preferred text alternatives position = none) :
    preferred text lexicalExpr position = none := by
  rw [lexicalExpr, preferred_seq, ways_eq_nil_iff.mpr (by rw [preferred_group, hnone])]
  rfl

/-- A match holds the preferred token and all semicolons behind it. -/
theorem matchAt_lexicalExpr {stop : Nat}
    (hpreferred : preferred text alternatives position = some stop) :
    ∃ found, matchAt text lexicalExpr position = some found ∧
      found.span = ⟨position, stop + runLength text (.single ';') stop⟩ ∧
      found.group? lexicalGroup = some ⟨position, stop⟩ := by
  obtain ⟨way, hway, rfl⟩ := Option.map_eq_some_iff.mp hpreferred
  obtain ⟨others, hways⟩ := List.head?_eq_some_iff.mp hway
  let semicolons : Expr := .repeated (.literal [';']) 0 none true
  have hsemicolons : (ways text semicolons way.stop).head? =
      some ⟨way.stop + runLength text (.single ';') way.stop, []⟩ := by
    rw [head?_ways_greedy rfl, if_pos (Nat.zero_le _)]
  obtain ⟨fewer, hfewer⟩ := List.head?_eq_some_iff.mp hsemicolons
  have hhead : (ways text lexicalExpr position).head? =
      some ⟨way.stop + runLength text (.single ';') way.stop,
        (lexicalGroup, ⟨position, way.stop⟩) :: way.groups⟩ := by
    rw [lexicalExpr, ways, ways, hways, List.map_cons, List.flatMap_cons, List.head?_append,
      List.head?_map]
    rw [show ways text (.repeated (.literal [';']) 0 none true) way.stop = _ from hfewer]
    rfl
  exact ⟨_, by rw [matchAt, hhead]; rfl, rfl, rfl⟩

/-- Nothing begins at white space, at a semicolon or at the end of the text. -/
theorem preferred_alternatives_eq_none {rest : List Char}
    (hrest : text.toList.drop position = rest) (havoids : Avoids plain rest) :
    preferred text alternatives position = none := by
  have hdistinct : preferred text distinctPhrase position = none := by
    refine preferred_distinctPhrase_eq_none hrest fun literal hliteral hbeginning => ?_
    obtain ⟨behind, rfl⟩ := hbeginning
    rcases List.mem_pair.mp hliteral with rfl | rfl
    · exact absurd (havoids 'd' rfl) (by decide)
    · exact absurd (havoids 'D' rfl) (by decide)
  rw [alternatives, preferred_either, preferred_either, preferred_either, hdistinct,
    preferred_run_eq_none hrest havoids]
  rw [byPhrase, preferred_run_seq_eq_none hrest (avoids_inWord havoids), numbers,
    preferred_run_seq_eq_none hrest (avoids_digit havoids)]
  rfl

/-- White space and semicolons are passed. -/
theorem find?_of_gap {gap rest : List Char} (hrest : text.toList.drop position = gap ++ rest)
    (hgap : ∀ c ∈ gap, plain.contains c = false) :
    find? text lexicalExpr position = find? text lexicalExpr (position + gap.length) := by
  refine find?_add flat_lexicalExpr fun place hleast hmost => ?_
  obtain ⟨passed, rfl⟩ := Nat.exists_eq_add_of_le hleast
  have hshort : passed < gap.length := by omega
  have hplace := drop_add hrest passed
  rw [List.drop_append_of_le_length (Nat.le_of_lt hshort), List.drop_eq_getElem_cons hshort]
    at hplace
  -- What is left at a place inside the gap begins with a character of the gap.
  refine preferred_lexicalExpr_eq_none (preferred_alternatives_eq_none hplace ?_)
  exact avoids_cons (hgap _ (List.getElem_mem hshort)) _

theorem find?_at_end (hend : text.size ≤ position) : find? text lexicalExpr position = none := by
  have hrest : text.toList.drop position = [] := List.drop_eq_nil_of_le (by simpa using hend)
  have hnone := preferred_lexicalExpr_eq_none
    (preferred_alternatives_eq_none hrest (avoids_nil plain))
  rw [find?_eq flat_lexicalExpr, List.findSome?_eq_none_iff]
  intro place hplace
  obtain ⟨hleast, hmost⟩ := List.mem_range'_1.mp hplace
  obtain rfl : place = position := by omega
  exact matchAt_eq_none_iff.mpr hnone

/-- A token holds a character, and it ends inside the text. -/
theorem preferred_alternatives_bounds {stop : Nat}
    (hpreferred : preferred text alternatives position = some stop) :
    position < stop ∧ stop ≤ text.size := by
  obtain ⟨way, hway, rfl⟩ := exists_way_of_preferred hpreferred
  have hadvances := advances (by decide) way hway
  have hposition : position ≤ text.size := by
    by_contra hbehind
    have hrest : text.toList.drop position = [] :=
      List.drop_eq_nil_of_le (by simpa using (Nat.lt_of_not_le hbehind).le)
    rw [preferred_alternatives_eq_none hrest (avoids_nil plain)] at hpreferred
    simp at hpreferred
  exact ⟨hadvances.lt_stop (by decide), hadvances.stop_le hposition⟩

/-- The next match is the next token, with what stands before it passed and the semicolons behind
it taken along. -/
theorem exists_find?_token {gap rest : List Char} {stop : Nat}
    (hrest : text.toList.drop position = gap ++ rest)
    (hgap : ∀ c ∈ gap, plain.contains c = false)
    (hpreferred : preferred text alternatives (position + gap.length) = some stop) :
    ∃ found, find? text lexicalExpr position = some found ∧
      found.span = ⟨position + gap.length, stop + runLength text (.single ';') stop⟩ ∧
      found.group? lexicalGroup = some ⟨position + gap.length, stop⟩ := by
  obtain ⟨hlt, hle⟩ := preferred_alternatives_bounds hpreferred
  obtain ⟨found, hfound, hspan, hgroup⟩ := matchAt_lexicalExpr hpreferred
  refine ⟨found, ?_, hspan, hgroup⟩
  rw [find?_of_gap hrest hgap]
  exact find?_of_matchAt flat_lexicalExpr (by omega) hfound

/-! ## All matches -/

/-- From a position on, a text is cut into tokens. What is passed in front of a token belongs into
none, the token is the preferred one where it begins, and the semicolons behind it are dropped. -/
inductive Cut (text : Array Char) : Nat → List Span → Prop
  | done {position : Nat} (hgap : ∀ c ∈ text.toList.drop position, plain.contains c = false) :
      Cut text position []
  | token {position stop : Nat} {gap rest : List Char} {spans : List Span}
      (hrest : text.toList.drop position = gap ++ rest)
      (hgap : ∀ c ∈ gap, plain.contains c = false)
      (hpreferred : preferred text alternatives (position + gap.length) = some stop)
      (hspans : Cut text (stop + runLength text (.single ';') stop) spans) :
      Cut text position (⟨position + gap.length, stop⟩ :: spans)

variable {spans : List Span}

/-- The tokens are the groups of the matches. -/
theorem Cut.tiles (hcut : Cut text position spans) :
    ∃ found, Tiles text lexicalExpr position found ∧
      found.filterMap (·.group? lexicalGroup) = spans := by
  induction hcut with
  | @done position hgap =>
      have hsize : text.size ≤ position + (text.toList.drop position).length := by
        rw [List.length_drop, Array.length_toList]
        omega
      refine ⟨[], .done ?_, rfl⟩
      rw [find?_of_gap (List.append_nil _).symm hgap, find?_at_end hsize]
  | @token position stop gap rest spans hrest hgap hpreferred _ ih =>
      obtain ⟨found, hfound, hspan, hgroup⟩ := exists_find?_token hrest hgap hpreferred
      obtain ⟨hlt, _⟩ := preferred_alternatives_bounds hpreferred
      obtain ⟨more, hmore, hspans⟩ := ih
      refine ⟨found :: more, .next hfound ?_ ?_ ?_, ?_⟩
      · rw [hspan]
        exact Nat.le_add_right _ _
      · rw [hspan]
        exact Nat.lt_add_right _ hlt
      · rw [hspan]
        exact hmore
      · rw [List.filterMap_cons, hgroup, hspans]

theorem spans_of_tiles {chars : List Char} {found : List Match}
    (htiles : Tiles chars.toArray lexicalExpr 0 found) :
    (Tokenizer.extraction ⟨lexicalPattern, lexicalExpr⟩ lexicalGroup).spans chars =
      found.filterMap (·.group? lexicalGroup) := by
  rw [Tokenizer.spans, Pattern.findAll, htiles.findAll_eq]

/-- The tokenizer of statements finds the tokens that a text is cut into. -/
theorem Cut.spans_eq {chars : List Char} (hcut : Cut chars.toArray 0 spans) :
    (Tokenizer.extraction ⟨lexicalPattern, lexicalExpr⟩ lexicalGroup).spans chars = spans := by
  obtain ⟨found, htiles, hspans⟩ := hcut.tiles
  rw [spans_of_tiles htiles, hspans]

theorem Cut.tokenize_eq {command : String} (hcut : Cut command.toList.toArray 0 spans) :
    (Tokenizer.extraction ⟨lexicalPattern, lexicalExpr⟩ lexicalGroup).tokenize command =
      Span.texts command.toList spans := by
  rw [Tokenizer.tokenize, hcut.spans_eq]

/-- What is left of a text, with the tokens that it is cut into. -/
inductive Lexed : List Char → List String → Prop
  | done {gap : List Char} (hgap : ∀ c ∈ gap, isWhiteSpace c = true) : Lexed gap []
  | lexeme {gap lexeme semicolons rest : List Char} {tokens : List String}
      (hgap : ∀ c ∈ gap, isWhiteSpace c = true) (hne : lexeme ≠ [])
      (hreads : Reads lexeme (semicolons ++ rest)) (hsemicolons : ∀ c ∈ semicolons, c = ';')
      (hclosed : rest.head? ≠ some ';') (hrest : Lexed rest tokens) :
      Lexed (gap ++ (lexeme ++ (semicolons ++ rest))) (String.ofList lexeme :: tokens)

theorem Lexed.cut {rest : List Char} {tokens : List String} (hlexed : Lexed rest tokens)
    (hrest : text.toList.drop position = rest) :
    ∃ spans, Cut text position spans ∧ Span.texts text.toList spans = tokens := by
  have hpassed : ∀ gap : List Char, (∀ c ∈ gap, isWhiteSpace c = true) →
      ∀ c ∈ gap, plain.contains c = false :=
    fun gap hgap c hc => not_plain_iff.mpr (.inl (hgap c hc))
  induction hlexed generalizing position with
  | done hgap => exact ⟨[], .done (hrest ▸ hpassed _ hgap), rfl⟩
  | @lexeme gap lexeme semicolons rest tokens hgap hne hreads hsemicolons hclosed _ ih =>
      have hstart := drop_add hrest gap.length
      rw [List.drop_left] at hstart
      have hstop := drop_add hstart lexeme.length
      rw [List.drop_left] at hstop
      have hrun : runLength text (.single ';') (position + gap.length + lexeme.length) =
          semicolons.length := by
        refine runLength_eq_length hstop (fun c hc => ?_) fun c hc => ?_
        · exact (contains_single_iff ';' c).mpr (hsemicolons c hc)
        · rw [← Bool.not_eq_true, contains_single_iff]
          rintro rfl
          exact hclosed hc
      have hbehind := drop_add hstop semicolons.length
      rw [List.drop_left, ← hrun] at hbehind
      obtain ⟨spans, hspans, htexts⟩ := ih hbehind
      refine ⟨_, .token hrest (hpassed gap hgap) (hreads text _ hstart) hspans, ?_⟩
      -- The token spans the lexeme without its semicolons.
      have hslice : Span.slice text.toList
          ⟨position + gap.length, position + gap.length + lexeme.length⟩ = lexeme := by
        rw [Span.slice, hstart, Nat.add_sub_cancel_left, List.take_left]
      have hlength := List.length_pos_of_ne_nil hne
      rw [Span.texts_cons (Nat.lt_add_of_pos_right hlength), hslice, htexts]

/-- The tokenizer of statements cuts a text of lexemes into these. -/
theorem Lexed.tokenize_eq {command : String} {tokens : List String}
    (hlexed : Lexed command.toList tokens) :
    (Tokenizer.extraction ⟨lexicalPattern, lexicalExpr⟩ lexicalGroup).tokenize command =
      tokens := by
  have hall : command.toList.toArray.toList.drop 0 = command.toList := by simp
  obtain ⟨spans, hcut, htexts⟩ := hlexed.cut hall
  rw [hcut.tokenize_eq]
  simpa using htexts

end CommandGrammar.Select
