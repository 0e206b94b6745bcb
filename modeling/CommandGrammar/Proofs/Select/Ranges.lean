import CommandGrammar.Proofs.Select.Forms

/-! # Ranges of two numbers

Two numbers with white space between them are one token if they have three digits between them,
since the pattern of statements asks for three runs of digits but for no white space. Two numbers of
one digit each are two tokens, and the statement ends before the second. A table named `distinct`
is taken together with the keyword behind it, and the statement ends there.
-/

namespace CommandGrammar

namespace Select

open Search Unicode

/-! ## Matching three numbers -/

section Matching

/-- The second and the third of three numbers. -/
def lastNumbers : Expr :=
  .seq (run digit 1 true) (.seq (run blank 0 false) (run digit 1 true))

theorem numbers_eq :
    numbers = .seq (run digit 1 true) (.seq (run blank 0 false) lastNumbers) := rfl

variable {text : Array Char} {position : Nat} {first gap second word rest : List Char}

/-- At a place inside white space there is no digit. -/
theorem avoids_digit_in_gap (hrest : text.toList.drop position = gap ++ rest)
    (hgap : ∀ c ∈ gap, blank.contains c = true) {passed : Nat} (hpassed : passed < gap.length) :
    Avoids digit (text.toList.drop (position + passed)) := by
  have hblank := hgap gap[passed] (List.getElem_mem hpassed)
  have hdigit : digit.contains gap[passed] = false := isDecimalDigit_of_isWhiteSpace hblank
  rw [drop_add hrest, List.drop_append_of_le_length hpassed.le, List.drop_eq_getElem_cons hpassed]
  exact avoids_cons hdigit _

namespace DigitRun

theorem preferred_digits (hrun : DigitRun text position word rest) (hne : word ≠ []) :
    preferred text (run digit 1 true) position = some (position + word.length) := by
  have hlength : 1 ≤ word.length := List.length_pos_of_ne_nil hne
  rw [run, preferred_greedy (asSet?_oneOf digit), hrun.runLength_digit, if_pos hlength]

/-- Two numbers need two digits. -/
theorem preferred_lastNumbers (hrun : DigitRun text position word rest) (hne : word ≠ []) :
    preferred text lastNumbers position =
      if 2 ≤ word.length then some (position + word.length) else none := by
  have hlength : 1 ≤ word.length := List.length_pos_of_ne_nil hne
  split
  next htwo =>
    -- The second number takes all that the first one leaves.
    have hends := hrun.endsWithRun_gap_seq hrun.endsWithRun_digits
    have hbehind := hrun.drop hlength
    have hsecond : preferred text (.seq (run blank 0 false) (run digit 1 true)) (position + 1) =
        some (position + word.length) := by
      rw [hbehind.preferred_no_gap, hbehind.preferred_digits, List.length_drop]
      · exact congrArg some (by omega)
      · exact List.ne_nil_of_length_pos (by rw [List.length_drop]; omega)
    refine preferred_repeated_seq_eq_some (asSet?_oneOf digit) (fun count _ hmost => ?_)
      (Nat.le_refl 1) (by rw [hrun.runLength_digit]; exact hlength) hsecond
    rw [hrun.runLength_digit] at hmost
    exact hends count hmost
  next hone =>
    refine preferred_repeated_seq_eq_none (asSet?_oneOf digit) fun count hleast hmost => ?_
    rw [hrun.runLength_digit] at hmost
    obtain rfl : count = word.length := by omega
    have hbehind := hrun.drop (Nat.le_refl word.length)
    have hnothing := hbehind.stands
    rw [List.drop_length, List.nil_append] at hnothing
    rw [hbehind.preferred_no_gap, preferred_run_eq_none hnothing hrun.no_digit]

end DigitRun

/-- At the position stand two numbers with white space between them, and neither a digit nor white
space behind them. -/
structure NumberPair (text : Array Char) (position : Nat) (first gap second rest : List Char) :
    Prop where
  stands : text.toList.drop position = first ++ (gap ++ (second ++ rest))
  first_run : RunOf digit.contains first
  gap_run : RunOf blank.contains gap
  second_run : RunOf digit.contains second
  no_digit : Avoids digit rest
  no_blank : Avoids blank rest

namespace NumberPair

variable {behind : Expr}

theorem gap_stands (hpair : NumberPair text position first gap second rest) :
    text.toList.drop (position + first.length) = gap ++ (second ++ rest) := by
  rw [drop_add hpair.stands, List.drop_left]

theorem second_digits (hpair : NumberPair text position first gap second rest) :
    DigitRun text (position + first.length + gap.length) second rest where
  stands := by rw [drop_add hpair.gap_stands, List.drop_left]
  all_digits := hpair.second_run.all
  no_digit := hpair.no_digit
  no_blank := hpair.no_blank

/-- At the end of the first number, an expression that begins with a digit matches behind the white
space. -/
theorem preferred_gap (hpair : NumberPair text position first gap second rest)
    (hbehind : ∀ place, Avoids digit (text.toList.drop place) →
      preferred text behind place = none) :
    preferred text (.seq (run blank 0 false) behind) (position + first.length) =
      preferred text behind (position + first.length + gap.length) :=
  preferred_gap_seq hpair.gap_stands hpair.gap_run.all hpair.second_digits.avoids_blank
    (Nat.zero_le _) fun _ _ hpassed =>
      hbehind _ (avoids_digit_in_gap hpair.gap_stands hpair.gap_run.all hpassed)

theorem avoids_gap (hpair : NumberPair text position first gap second rest) :
    Avoids digit (gap ++ (second ++ rest)) := by
  rw [← hpair.gap_stands]
  exact avoids_digit_in_gap hpair.gap_stands hpair.gap_run.all
    (List.length_pos_of_ne_nil hpair.gap_run.ne_nil)

/-- What is left of the first number at a place inside it. -/
theorem drop_stands (hpair : NumberPair text position first gap second rest) {count : Nat}
    (hcount : count ≤ first.length) :
    text.toList.drop (position + count) = first.drop count ++ (gap ++ (second ++ rest)) := by
  rw [drop_add hpair.stands, List.drop_append_of_le_length hcount]

theorem runLength_digit (hpair : NumberPair text position first gap second rest) {count : Nat}
    (hcount : count ≤ first.length) :
    runLength text digit (position + count) = first.length - count := by
  rw [runLength_eq_length (hpair.drop_stands hcount)
    (fun c hc => hpair.first_run.all c (List.mem_of_mem_drop hc)) hpair.avoids_gap,
    List.length_drop]

/-- From a place inside the first number, two more numbers end where the second one does. -/
theorem preferred_inside (hpair : NumberPair text position first gap second rest) {count : Nat}
    (hcount : count < first.length) :
    preferred text (.seq (run blank 0 false) lastNumbers) (position + count) =
      some (position + first.length + gap.length + second.length) := by
  have hrest : text.toList.drop (position + count) =
      [] ++ (first.drop count ++ (gap ++ (second ++ rest))) := hpair.drop_stands hcount.le
  have hdigit : Avoids blank (first.drop count ++ (gap ++ (second ++ rest))) := by
    rw [List.drop_eq_getElem_cons hcount]
    exact avoids_cons (not_blank_of_digit (hpair.first_run.all _ (List.getElem_mem hcount))) _
  rw [preferred_gap_seq hrest (by simp) hdigit (Nat.zero_le _) (by simp), List.length_nil,
    Nat.add_zero]
  -- The longest run ends with the first number, and what is behind the white space is left.
  have hrun := hpair.runLength_digit hcount.le
  refine preferred_greedy_seq_eq_some (asSet?_oneOf digit) (by omega) ?_
  rw [hrun, Nat.add_assoc, Nat.add_sub_cancel' hcount.le,
    hpair.preferred_gap fun _ => preferred_run_eq_none rfl,
    hpair.second_digits.preferred_digits hpair.second_run.ne_nil]

/-- Three numbers need three digits, and two numbers with white space between them are read as
three if they have them. -/
theorem preferred_numbers (hpair : NumberPair text position first gap second rest) :
    preferred text numbers position =
      if 3 ≤ first.length + second.length then
        some (position + (first ++ (gap ++ second)).length)
      else none := by
  have hfirst : 1 ≤ first.length := List.length_pos_of_ne_nil hpair.first_run.ne_nil
  have hsecond : 1 ≤ second.length := List.length_pos_of_ne_nil hpair.second_run.ne_nil
  have hstop : position + (first ++ (gap ++ second)).length =
      position + first.length + gap.length + second.length := by
    simp only [List.length_append]
    omega
  have hrun : runLength text digit position = first.length := hpair.runLength_digit (Nat.zero_le _)
  have hend : preferred text (.seq (run blank 0 false) lastNumbers) (position + first.length) =
      if 2 ≤ second.length then some (position + first.length + gap.length + second.length)
      else none := by
    have hnone : ∀ place, Avoids digit (text.toList.drop place) →
        preferred text lastNumbers place = none :=
      fun _ => preferred_run_seq_eq_none rfl
    rw [hpair.preferred_gap hnone,
      hpair.second_digits.preferred_lastNumbers hpair.second_run.ne_nil]
  rw [numbers_eq, hstop]
  split
  next hthree =>
    -- However many digits the first number takes, the third ends where the second one stands.
    have hall : ∀ count ≤ runLength text digit position,
        preferred text (.seq (run blank 0 false) lastNumbers) (position + count) = none ∨
          preferred text (.seq (run blank 0 false) lastNumbers) (position + count) =
            some (position + first.length + gap.length + second.length) := by
      intro count hmost
      rw [hrun] at hmost
      rcases Nat.lt_or_eq_of_le hmost with hshort | rfl
      · exact .inr (hpair.preferred_inside hshort)
      · rw [hend]
        split
        · exact .inr rfl
        · exact .inl rfl
    refine preferred_repeated_seq_eq_some (asSet?_oneOf digit) (fun count _ => hall count)
      (Nat.le_refl 1) (by rwa [hrun]) ?_
    by_cases hlong : 1 < first.length
    · exact hpair.preferred_inside hlong
    · have hone : first.length = 1 := by omega
      rw [hone] at hend ⊢
      rw [hend, if_pos (by omega)]
  next hfew =>
    refine preferred_repeated_seq_eq_none (asSet?_oneOf digit) fun count hleast hmost => ?_
    rw [hrun] at hmost
    obtain rfl : count = first.length := by omega
    rw [hend, if_neg (by omega)]

end NumberPair

end Matching

/-! ## Reading two numbers -/

section Reading

variable {text : Array Char} {position : Nat} {first gap second rest : List Char}

/-- What stands behind the first number ends a word. -/
theorem NumberPair.endsWord (hpair : NumberPair text position first gap second rest) :
    EndsWord (gap ++ (second ++ rest)) := by
  refine endsWord_of_gap hpair.gap_run.ne_nil hpair.gap_run.all
    hpair.second_digits.avoids_blank ?_
  obtain ⟨c, others, hsecond⟩ := List.exists_cons_of_ne_nil hpair.second_run.ne_nil
  have hdigit : digit.contains c = true := hpair.second_run.all c (by simp [hsecond])
  rw [hsecond]
  intro hby
  obtain rfl : 'b' = c := (List.cons_prefix_cons.mp hby).1
  exact absurd hdigit (by decide)

/-- Both numbers are read if they have three digits between them, and otherwise the first one. -/
theorem NumberPair.preferred_alternatives
    (hpair : NumberPair text position first gap second rest) :
    preferred text alternatives position =
      if 3 ≤ first.length + second.length then
        some (position + (first ++ (gap ++ second)).length)
      else some (position + first.length) := by
  have hword := word_of_digits hpair.first_run.ne_nil hpair.first_run.all
  have hends := hpair.endsWord
  rw [alternatives, preferred_either, preferred_either, preferred_either,
    hword.preferred_distinctPhrase hends.avoids hpair.stands,
    preferred_byPhrase_eq_none hpair.stands hword.all_plain hends, hpair.preferred_numbers,
    hword.preferred_plain hends.avoids hpair.stands]
  split <;> rfl

theorem reads_pair (hfirst : RunOf digit.contains first) (hgap : RunOf blank.contains gap)
    (hsecond : RunOf digit.contains second) (hthree : 3 ≤ first.length + second.length)
    (hrest : ∀ c, rest.head? = some c → c = ';') : Reads (first ++ (gap ++ second)) rest := by
  intro text position hstands
  rw [List.append_assoc, List.append_assoc] at hstands
  have hpair : NumberPair text position first gap second rest :=
    ⟨hstands, hfirst, hgap, hsecond, avoids_of_semicolon (by decide) hrest,
      avoids_of_semicolon (by decide) hrest⟩
  rw [hpair.preferred_alternatives, if_pos hthree]

theorem reads_first (hfirst : RunOf digit.contains first) (hgap : RunOf blank.contains gap)
    (hsecond : RunOf digit.contains second) (hfew : first.length + second.length < 3)
    (hrest : ∀ c, rest.head? = some c → c = ';') : Reads first (gap ++ (second ++ rest)) := by
  intro text position hstands
  have hpair : NumberPair text position first gap second rest :=
    ⟨hstands, hfirst, hgap, hsecond, avoids_of_semicolon (by decide) hrest,
      avoids_of_semicolon (by decide) hrest⟩
  rw [hpair.preferred_alternatives, if_neg (Nat.not_le_of_lt hfew)]

end Reading

/-! ## Statements with two numbers -/

/-- A name of letters that does not begin with `by`. -/
@[mk_iff]
structure Identifier (word : String) : Prop where
  ne_empty : word ≠ ""
  letters : ∀ c ∈ word.toList, c.isAlpha = true
  no_by : ¬ "by".toList <+: word.toList

instance (word : String) : Decidable (Identifier word) :=
  decidable_of_iff (word ≠ "" ∧ word.toList.all Char.isAlpha = true ∧
    ¬ "by".toList <+: word.toList) (by simp [identifier_iff])

/-- The two ways to write the keyword `distinct`. -/
def distinctKeywords : List String := ["distinct", "DISTINCT"]

/-- A statement with two numbers behind `limit`. -/
def rangeText (fields table first second : String) : String :=
  "select " ++ fields ++ " from " ++ table ++ " limit " ++ first ++ " " ++ second

/-- The tokens of two numbers with a space between them. -/
def rangeTokens (first second : String) : List String :=
  if 3 ≤ first.length + second.length then [first ++ " " ++ second] else [first, second]

section Statements

variable {fields table first second : String} {text : List Char} {tokens : List String}

theorem toList_rangeText (fields table first second : String) :
    (rangeText fields table first second).toList =
      "select".toList ++ ([' '] ++ (fields.toList ++ ([' '] ++ ("from".toList ++ ([' '] ++
        (table.toList ++ ([' '] ++ ("limit".toList ++ ([' '] ++ (first.toList ++ ([' '] ++
        second.toList))))))))))) := by
  have hselect : "select ".toList = "select".toList ++ [' '] := by decide
  have hfrom : " from ".toList = [' '] ++ ("from".toList ++ [' ']) := by decide
  have hlimit : " limit ".toList = [' '] ++ ("limit".toList ++ [' ']) := by decide
  have hspace : " ".toList = [' '] := by decide
  simp only [rangeText, String.toList_append, hselect, hfrom, hlimit, hspace, List.append_assoc]

theorem Identifier.cleanWord {word : String} (hword : Identifier word)
    (hdistinct : word ∉ distinctKeywords) : CleanWord word where
  ne_empty := hword.ne_empty
  no_blank c hc := (isAlpha_apart (hword.letters c hc)).1
  no_semicolon c hc := by
    rintro rfl
    exact absurd (hword.letters _ hc) (by decide)
  no_digit c hc := (isAlpha_apart (hword.letters c (List.mem_of_mem_head? hc))).2
  no_by := hword.no_by
  ne_distinct := by
    rintro rfl
    exact hdistinct (by decide)
  ne_upper_distinct := by
    rintro rfl
    exact hdistinct (by decide)

theorem PlainNumber.runOf {number : String} (hnumber : PlainNumber number) :
    RunOf digit.contains number.toList :=
  ⟨by simpa using hnumber.1, hnumber.all_digits⟩

theorem space_runOf : RunOf blank.contains [' '] :=
  ⟨by simp, List.all_eq_true.mp (by decide)⟩

/-- A clean word with a space behind it. -/
theorem Continues.word {word : String} (hcontinues : Continues text tokens)
    (hclean : CleanWord word) : Continues (word.toList ++ ([' '] ++ text)) (word :: tokens) := by
  have hends := hcontinues.endsWord space_runOf.ne_nil space_runOf.all
  exact hcontinues.next space_runOf.ne_nil space_runOf.all hclean.begins (hclean.reads hends)

theorem continues_range (hfirst : PlainNumber first) (hsecond : PlainNumber second) :
    Continues (first.toList ++ ([' '] ++ second.toList)) (rangeTokens first second) := by
  unfold rangeTokens
  split
  next hthree =>
    have hpair : (first ++ " " ++ second).toList = first.toList ++ ([' '] ++ second.toList) := by
      simp
    have hbegins : Begins (first ++ " " ++ second) := by
      obtain ⟨hhead, hby⟩ := hfirst.begins.append
        (avoids_plain_of_gap space_runOf.ne_nil space_runOf.all)
      exact ⟨hpair ▸ hhead, hpair ▸ hby⟩
    have hreads : Reads (first ++ " " ++ second).toList (List.replicate 0 ';') := by
      rw [hpair]
      exact reads_pair hfirst.runOf space_runOf hsecond.runOf hthree
        fun _ => eq_of_head?_replicate
    have hlast := Continues.last hbegins hreads
    rwa [hpair, List.replicate_zero, List.append_nil] at hlast
  next hfew =>
    have hreads : Reads first.toList ([' '] ++ (second.toList ++ List.replicate 0 ';')) :=
      reads_first hfirst.runOf space_runOf hsecond.runOf (Nat.lt_of_not_le hfew)
        fun _ => eq_of_head?_replicate
    have hlast := Continues.last hsecond.begins (hsecond.reads 0)
    have hboth := hlast.next space_runOf.ne_nil space_runOf.all hfirst.begins hreads
    rwa [List.replicate_zero, List.append_nil] at hboth

theorem cleanWord_select : CleanWord "select" := by decide

theorem cleanWord_from : CleanWord "from" := by decide

theorem cleanWord_limit : CleanWord "limit" := by decide

/-- A table that is not spelled `distinct` is a token of its own. -/
theorem lexed_rangeText (hfields : CleanWord fields) (htable : CleanWord table)
    (hfirst : PlainNumber first) (hsecond : PlainNumber second) :
    Lexed (rangeText fields table first second).toList
      ("select" :: fields :: "from" :: table :: "limit" :: rangeTokens first second) := by
  have hlimit := (continues_range hfirst hsecond).word cleanWord_limit
  have hfrom := (hlimit.word htable).word cleanWord_from
  have hselect := (hfrom.word hfields).word cleanWord_select
  rw [toList_rangeText]
  exact hselect.lexed

/-- A table that is spelled `distinct` is a token together with the keyword behind it. -/
theorem lexed_rangeText_of_distinct (hfields : CleanWord fields)
    (htable : table ∈ distinctKeywords) (hfirst : PlainNumber first)
    (hsecond : PlainNumber second) :
    Lexed (rangeText fields table first second).toList
      ("select" :: fields :: "from" :: (table ++ " limit") :: rangeTokens first second) := by
  have hrange := continues_range hfirst hsecond
  have hlimit : " limit".toList = ' ' :: "limit".toList := by decide
  have hphrase : (table ++ " limit").toList = table.toList ++ ' ' :: "limit".toList := by
    rw [String.toList_append, hlimit]
  have hbegins : Begins (table ++ " limit") := by
    rcases List.mem_pair.mp htable with rfl | rfl
    · exact ⟨⟨'d', "istinct limit".toList, by decide, by decide⟩, by decide⟩
    · exact ⟨⟨'D', "ISTINCT limit".toList, by decide, by decide⟩, by decide⟩
  have hkeyword : table.toList ∈ ["distinct".toList, "DISTINCT".toList] :=
    List.mem_map_of_mem htable
  have hreads : Reads (table ++ " limit").toList
      ([' '] ++ (first.toList ++ ([' '] ++ second.toList))) := by
    rw [hphrase]
    exact reads_distinctPhrase hkeyword cleanWord_limit.toWord.ne_nil cleanWord_limit.all_visible
      (avoids_visible_of_gap space_runOf.ne_nil space_runOf.all)
  have htable := hrange.next space_runOf.ne_nil space_runOf.all hbegins hreads
  have hselect := ((htable.word cleanWord_from).word hfields).word cleanWord_select
  rw [hphrase] at hselect
  rw [toList_rangeText]
  simpa using hselect.lexed

theorem Slot.keyword_no_digit (slot : Slot) :
    slot.keyword.toList.head?.all (!·.isDigit) = true := by
  cases slot <;> decide

/-- No keyword begins with a digit, so a statement ends in front of numbers. -/
theorem closes_rangeTokens (hfirst : PlainNumber first) (slot : Slot) :
    Closes slot (rangeTokens first second) := by
  intro other _ hkeyword
  obtain ⟨c, others, hcons⟩ := List.exists_cons_of_ne_nil hfirst.runOf.ne_nil
  have hdigit : c.isDigit = true := hfirst.2 c (by simp [hcons])
  have hhead : other.keyword.toList.head? = some c := by
    unfold rangeTokens at hkeyword
    split at hkeyword
    · rw [← Option.some.inj hkeyword]
      simp [hcons]
    · rw [← Option.some.inj hkeyword, hcons, List.head?_cons]
  have hnone := other.keyword_no_digit
  simp [hhead, hdigit] at hnone

/-- Nothing stands behind the range. -/
theorem closes_range (rest : List String) : Closes .range rest := by
  intro other hbehind
  cases other <;> simp [Slot.rank] at hbehind

end Statements

/-! ## Running -/

namespace Ready

variable {R : Type} {dispatcher : Dispatcher R} {store : StoreRef} {callbacks : Callbacks R}
  {base : Nat} {fields table first second : String}

/-- Three digits or more reach the callback of the range as one value, and of fewer only the first
number does. -/
theorem executes_rangeText (hready : Ready dispatcher store callbacks base)
    (hempty : dispatcher.grammar.captured store = [])
    (htokenizer : dispatcher.tokenizer = .extraction ⟨lexicalPattern, lexicalExpr⟩ lexicalGroup)
    (hfields : CleanWord fields) (htable : CleanWord table) (hfirst : PlainNumber first)
    (hsecond : PlainNumber second) :
    (dispatcher.run (rangeText fields table first second)).outcome =
      .executed (callbacks.range [fields, table,
        if 3 ≤ first.length + second.length then first ++ " " ++ second else first]) := by
  have hlexed := lexed_rangeText hfields htable hfirst hsecond
  have hordered : ∀ value, Statement.Ordered ⟨fields, table, [(.range, value)]⟩ :=
    fun _ => inOrder_cons_iff.mpr ⟨show Slot.table.rank < Slot.range.rank by decide, inOrder_nil _⟩
  unfold rangeTokens at hlexed
  split at hlexed
  next hthree =>
    rw [if_pos hthree]
    exact hready.executes_lexed hempty htokenizer (hordered _) (closes_nil .range) hlexed
  next hfew =>
    rw [if_neg hfew]
    exact hready.executes_lexed hempty htokenizer (hordered _) (closes_range [second]) hlexed

/-- With a table that is spelled `distinct`, the statement ends with the table. -/
theorem executes_rangeText_of_distinct (hready : Ready dispatcher store callbacks base)
    (hempty : dispatcher.grammar.captured store = [])
    (htokenizer : dispatcher.tokenizer = .extraction ⟨lexicalPattern, lexicalExpr⟩ lexicalGroup)
    (hfields : CleanWord fields) (htable : table ∈ distinctKeywords) (hfirst : PlainNumber first)
    (hsecond : PlainNumber second) :
    (dispatcher.run (rangeText fields table first second)).outcome =
      .executed (callbacks.table [fields, table ++ " limit"]) := by
  have hlexed := lexed_rangeText_of_distinct hfields htable hfirst hsecond
  have hordered : Statement.Ordered ⟨fields, table ++ " limit", []⟩ := inOrder_nil _
  exact hready.executes_lexed hempty htokenizer hordered (closes_rangeTokens hfirst .table) hlexed

end Ready

end Select

namespace Dispatcher

open Select

variable {R : Type}

/-- After the template was installed into a store that exists and the node that it returned was
registered for `select`, and as long as nothing else is constructed, the store reads empty and
commands are cut by the tokenizer of statements, a statement with two numbers behind `limit` passes
both to the callback of the range if they have three digits or more between them. With one digit
each, the callback is given the first number only. A table that is spelled `distinct` takes the
keyword with it, and the callback of the table is run without any number. -/
theorem Reachable.select_runs_ranges {dispatcher : Dispatcher R} (hreach : dispatcher.Reachable)
    {store : StoreRef} (hstore : dispatcher.grammar.stores.contains store = true)
    {callbacks : List (Callback R)} (hcallbacks : callbackCount ≤ callbacks.length)
    {cache : PatternCache} (hcache : cache.Faithful) :
    let installed := dispatcher.perform (.installSelect store callbacks)
    ∃ root tokenizer, installed.response = .node root ∧
      (Select.tokenizer cache).1 = .ok tokenizer ∧
      ∀ registration : Operation R, registration.EntersSelect root →
        let registered := installed.dispatcher.perform registration
        registered.response = .done ∧
        registered.dispatcher.grammar.captured = dispatcher.grammar.captured ∧
        ∀ operations : List (Operation R),
          (∀ operation ∈ operations, operation.constructs = false) →
          let later := registered.dispatcher.afterAll operations
          later.grammar.captured store = [] → later.tokenizer = tokenizer →
          ∀ fields table first second : String, Identifier fields → fields ∉ distinctKeywords →
            Identifier table → PlainNumber first → PlainNumber second →
            ∃ onTable onRange, callbacks[Slot.table.rank]? = some onTable ∧
              callbacks[Slot.range.rank]? = some onRange ∧
              let outcome := (later.run (rangeText fields table first second)).outcome
              (table ∉ distinctKeywords → 3 ≤ first.length + second.length →
                outcome = .executed (onRange [fields, table, first ++ " " ++ second])) ∧
              (table ∉ distinctKeywords → first.length + second.length < 3 →
                outcome = .executed (onRange [fields, table, first])) ∧
              (table ∈ distinctKeywords →
                outcome = .executed (onTable [fields, table ++ " limit"])) := by
  intro installed
  obtain ⟨hinstalled, hregisters⟩ := hreach.select_ready hstore hcallbacks
  refine ⟨_, _, hinstalled, tokenizer_eq hcache, fun registration henters => ?_⟩
  obtain ⟨hregistered, hcaptured, known, hslots, hready⟩ := hregisters registration henters
  refine ⟨hregistered, hcaptured, ?_⟩
  intro operations hkind later hempty htokenizer fields table first second hfields hplain htable
    hfirst hsecond
  have hready := hready operations hkind
  have hclean := hfields.cleanWord hplain
  refine ⟨_, _, hslots .table, hslots .range, fun hother hthree => ?_, fun hother hfew => ?_,
    fun hdistinct => ?_⟩
  · have houtcome := hready.executes_rangeText hempty htokenizer hclean (htable.cleanWord hother)
      hfirst hsecond
    rwa [if_pos hthree] at houtcome
  · have houtcome := hready.executes_rangeText hempty htokenizer hclean (htable.cleanWord hother)
      hfirst hsecond
    rwa [if_neg (Nat.not_le_of_lt hfew)] at houtcome
  · exact hready.executes_rangeText_of_distinct hempty htokenizer hclean hdistinct hfirst hsecond

/-- The dispatcher with one store, with the template registered in it. -/
def withSelect : Dispatcher (String × List String) :=
  ((oneStore.perform (.installSelect ⟨0⟩ labelled)).dispatcher.perform
    (.register (.stored (oneStore.grammar.size + rootOffset)))).dispatcher

/-- The same dispatcher with the tokenizer of statements. -/
def selecting : Dispatcher (String × List String) :=
  withSelect.afterAll [.setTokenizer (.regexGroup lexicalGroup) lexicalPattern]

theorem selecting_eq : selecting =
    { withSelect with tokenizer := .extraction ⟨lexicalPattern, lexicalExpr⟩ lexicalGroup } :=
  withSelect.perform_setTokenizer (tokenizer_eq .empty)

theorem selecting_tokenizer :
    selecting.tokenizer = .extraction ⟨lexicalPattern, lexicalExpr⟩ lexicalGroup := by
  rw [selecting_eq]

theorem oneStore_reachable : oneStore.Reachable := (Reachable.start _).afterAll _

/-- The callbacks return the names of their slots, and the store reads empty. -/
theorem selecting_ready : ∃ known : Callbacks (String × List String),
    (∀ slot : Slot, labelled[slot.rank]? = some (known.at slot)) ∧
      Ready selecting ⟨0⟩ known oneStore.grammar.size ∧ selecting.grammar.captured ⟨0⟩ = [] := by
  have hstore : oneStore.grammar.stores.contains ⟨0⟩ = true := by decide
  have hcallbacks : callbackCount ≤ labelled.length := by decide
  obtain ⟨-, hregisters⟩ := oneStore_reachable.select_ready hstore hcallbacks
  obtain ⟨-, hcaptured, known, hslots, hready⟩ := hregisters _ (.inl rfl)
  have hready := hready [.setTokenizer (.regexGroup lexicalGroup) lexicalPattern]
    (by simp [Operation.constructs])
  refine ⟨known, hslots, by unfold selecting withSelect; exact hready, ?_⟩
  have hkept : withSelect.grammar.captured = oneStore.grammar.captured := hcaptured
  have hsame : selecting.grammar = withSelect.grammar := by rw [selecting_eq]
  rw [hsame, hkept]
  decide

/-- Three digits in two numbers, and a table that takes the keyword with it. -/
theorem select_runs_ranges_page :
    oneStore.Reachable ∧ oneStore.grammar.stores.contains ⟨0⟩ = true ∧
      callbackCount ≤ labelled.length ∧ PatternCache.empty.Faithful ∧
      selecting.grammar.captured ⟨0⟩ = [] ∧
      (selecting.run "select name from users limit 10 5").outcome =
        .executed ("limit", ["name", "users", "10 5"]) ∧
      (selecting.run "select name from DISTINCT limit 10 5").outcome =
        .executed ("table", ["name", "DISTINCT limit"]) := by
  have hstore : oneStore.grammar.stores.contains ⟨0⟩ = true := by decide
  have hcallbacks : callbackCount ≤ labelled.length := by decide
  have hfaithful := PatternCache.Faithful.empty
  obtain ⟨-, -, -, hempty⟩ := selecting_ready
  refine ⟨oneStore_reachable, hstore, hcallbacks, hfaithful, hempty, ?_⟩
  obtain ⟨root, tokenizer, hroot, htokenizer, hregisters⟩ :=
    oneStore_reachable.select_runs_ranges hstore hcallbacks hfaithful
  obtain ⟨hinstalled, -⟩ := oneStore_reachable.select_ready hstore hcallbacks
  obtain rfl := Response.node.inj (hinstalled.symm.trans hroot)
  obtain rfl := Except.ok.inj ((tokenizer_eq hfaithful).symm.trans htokenizer)
  obtain ⟨-, -, hruns⟩ := hregisters _ (.inl rfl)
  have hruns := hruns [.setTokenizer (.regexGroup lexicalGroup) lexicalPattern]
    (by simp [Operation.constructs])
  have hpage := hruns hempty selecting_tokenizer "name"
  constructor
  · obtain ⟨_, onRange, -, hrange, hthree, -⟩ := hpage "users" "10" "5" (by decide)
      (by decide) (by decide) (by decide) (by decide)
    obtain rfl : (fun values => ("limit", values)) = onRange := Option.some.inj hrange
    exact hthree (by decide) (by decide)
  · obtain ⟨onTable, _, htable, -, -, -, hdistinct⟩ := hpage "DISTINCT" "10" "5"
      (by decide) (by decide) (by decide) (by decide) (by decide)
    obtain rfl : (fun values => ("table", values)) = onTable := Option.some.inj htable
    exact hdistinct (by decide)

/-- Of two numbers of one digit each only the first reaches the callback. -/
theorem select_drops_second_number :
    (selecting.run "select f from t limit 1 2").outcome =
      .executed ("limit", ["f", "t", "1"]) := by
  obtain ⟨known, hslots, hready, hempty⟩ := selecting_ready
  have hrange : (fun values => ("limit", values)) = known.range := Option.some.inj (hslots .range)
  have hfields : CleanWord "f" := by decide
  have htable : CleanWord "t" := by decide
  have hfirst : PlainNumber "1" := by decide
  have hsecond : PlainNumber "2" := by decide
  have houtcome :=
    hready.executes_rangeText hempty selecting_tokenizer hfields htable hfirst hsecond
  rwa [← hrange] at houtcome

end Dispatcher

end CommandGrammar
