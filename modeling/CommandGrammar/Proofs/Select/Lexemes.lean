import CommandGrammar.Proofs.Pattern.Blanks
import CommandGrammar.Proofs.Pattern.Caching
import CommandGrammar.Proofs.Pattern.Preferred
import CommandGrammar.Template.Select
import Mathlib.Data.List.Infix
import Mathlib.Data.List.TakeWhile

/-! # How lexemes are read

The pattern of statements has four alternatives: a field behind `distinct`, a word with `by`, a run
of three numbers, and a plain run up to white space or a semicolon. Which of them is preferred
behind a position, and where it ends, follows from the characters there. A word takes the last
alternative, up to its end, unless `by` comes next.
-/

namespace CommandGrammar.Select

open Search Unicode

/-! ## The expression of the pattern -/

/-- White space. -/
def blank : CharSet := .property .whiteSpace

/-- Decimal digits. -/
def digit : CharSet := .property .decimalDigit

/-- The characters of words. -/
def inWord : CharSet := .property .word

/-- What is no white space. -/
def visible : CharSet := .compl blank

/-- What is neither white space nor a semicolon. -/
def plain : CharSet := .compl (.union blank (.interval ';' ';'))

/-- A repetition of the characters of a set. -/
def run (set : CharSet) (least : Nat) (greedy : Bool) : Expr :=
  .repeated (.oneOf set) least none greedy

/-- A field behind `distinct`. -/
def distinctPhrase : Expr :=
  .seq (.either (.literal "distinct".toList) (.literal "DISTINCT".toList))
    (.seq (run blank 1 false) (run visible 1 true))

/-- A word with `by`. -/
def byPhrase : Expr := .seq (run inWord 1 true) (.seq (run blank 1 true) (.literal "by".toList))

/-- Three numbers, which need no white space between them. -/
def numbers : Expr :=
  .seq (run digit 1 true) (.seq (run blank 0 false) (.seq (run digit 1 true)
    (.seq (run blank 0 false) (run digit 1 true))))

/-- What a token can be. -/
def alternatives : Expr :=
  .either distinctPhrase (.either byPhrase (.either numbers (run plain 1 true)))

/-- A token and the semicolons behind it. -/
def lexicalExpr : Expr :=
  .seq (.group lexicalGroup alternatives) (.repeated (.literal [';']) 0 none true)

theorem flat_lexicalExpr : lexicalExpr.flat = true := by decide

theorem read_lexicalPattern :
    Pattern.read? lexicalPattern = .ok ⟨lexicalPattern, lexicalExpr⟩ :=
  Pattern.read?_eq_ok_of_toOption (by decide)

theorem plain_iff {c : Char} : plain.contains c = true ↔ isWhiteSpace c = false ∧ c ≠ ';' := by
  have hsemicolon : CharSet.contains (.interval ';' ';') c = true ↔ c = ';' :=
    contains_single_iff ';' c
  simp only [plain, blank, CharSet.contains, CharProperty.holds] at hsemicolon ⊢
  rw [Bool.not_eq_true', Bool.or_eq_false_iff, ← Bool.not_eq_true (decide _ && _), hsemicolon]

theorem not_blank_of_plain {c : Char} (hplain : plain.contains c = true) :
    blank.contains c = false := (plain_iff.mp hplain).1

theorem not_blank_of_digit {c : Char} (hdigit : digit.contains c = true) :
    blank.contains c = false := by
  by_contra hblank
  rw [Bool.not_eq_false] at hblank
  have hnone := isDecimalDigit_of_isWhiteSpace hblank
  exact absurd (hdigit.symm.trans hnone) (by simp)

/-! ## Runs -/

section Runs

variable {text : Array Char} {position : Nat} {set : CharSet} {word rest : List Char}

/-- The first character, if there is one, is not in the set. -/
def Avoids (set : CharSet) (rest : List Char) : Prop :=
  ∀ c, rest.head? = some c → set.contains c = false

theorem avoids_nil (set : CharSet) : Avoids set [] := by simp [Avoids]

theorem avoids_cons {c : Char} (hc : set.contains c = false) (rest : List Char) :
    Avoids set (c :: rest) := by
  rintro other ⟨⟩
  exact hc

theorem takeWhile_eq_nil (havoids : Avoids set rest) : rest.takeWhile set.contains = [] := by
  cases rest with
  | nil => rfl
  | cons c others => rw [List.takeWhile_cons_of_neg (by simp [havoids c rfl])]

theorem drop_add (hrest : text.toList.drop position = rest) (count : Nat) :
    text.toList.drop (position + count) = rest.drop count := by
  rw [← hrest, List.drop_drop]

theorem runLength_eq_zero (hrest : text.toList.drop position = rest) (havoids : Avoids set rest) :
    runLength text set position = 0 := by
  rw [runLength_eq hrest, takeWhile_eq_nil havoids, List.length_nil]

/-- A run ends where its set ends. -/
theorem runLength_eq_length (hrest : text.toList.drop position = word ++ rest)
    (hword : ∀ c ∈ word, set.contains c = true) (havoids : Avoids set rest) :
    runLength text set position = word.length := by
  rw [runLength_eq hrest, List.takeWhile_append_of_pos hword, takeWhile_eq_nil havoids,
    List.append_nil]

theorem runLength_le_length (hrest : text.toList.drop position = word ++ rest)
    (havoids : Avoids set rest) : runLength text set position ≤ word.length := by
  rw [runLength_eq hrest, List.takeWhile_append, takeWhile_eq_nil havoids, List.append_nil]
  split
  · exact Nat.le_refl _
  · exact (List.takeWhile_prefix _).length_le

end Runs

/-! ## Alternatives that find nothing -/

section Nothing

variable {text : Array Char} {position : Nat} {word rest : List Char}

theorem asSet?_oneOf (set : CharSet) : (Expr.oneOf set).asSet? = some set := rfl

theorem preferred_run_seq_eq_none {set : CharSet} {greedy : Bool} {second : Expr}
    (hrest : text.toList.drop position = rest) (havoids : Avoids set rest) :
    preferred text (.seq (run set 1 greedy) second) position = none := by
  refine preferred_repeated_seq_eq_none (asSet?_oneOf set) fun count hleast hmost => ?_
  rw [runLength_eq_zero hrest havoids] at hmost
  omega

theorem preferred_run_eq_none {set : CharSet} (hrest : text.toList.drop position = rest)
    (havoids : Avoids set rest) : preferred text (run set 1 true) position = none := by
  rw [run, preferred_greedy (asSet?_oneOf set), runLength_eq_zero hrest havoids]
  rfl

/-- What stands behind a word: no character of it, and no `by` behind white space. -/
structure EndsWord (rest : List Char) : Prop where
  avoids : Avoids plain rest
  not_by : ¬ "by".toList <+: rest.dropWhile isWhiteSpace

theorem not_plain_iff {c : Char} :
    plain.contains c = false ↔ isWhiteSpace c = true ∨ c = ';' := by
  rw [← Bool.not_eq_true, plain_iff, not_and_or, Bool.not_eq_false, not_not]

theorem avoids_inWord (havoids : Avoids plain rest) : Avoids inWord rest := by
  intro c hc
  rcases not_plain_iff.mp (havoids c hc) with hblank | rfl
  · exact isWord_of_isWhiteSpace hblank
  · decide

theorem avoids_digit (havoids : Avoids plain rest) : Avoids digit rest := by
  intro c hc
  rcases not_plain_iff.mp (havoids c hc) with hblank | rfl
  · exact isDecimalDigit_of_isWhiteSpace hblank
  · decide

/-- No `by` follows white space where none follows all of it. -/
theorem preferred_by_eq_none (hrest : text.toList.drop position = rest)
    (hby : ¬ "by".toList <+: rest.dropWhile isWhiteSpace) :
    preferred text (.seq (run blank 1 true) (.literal "by".toList)) position = none := by
  refine preferred_repeated_seq_eq_none (asSet?_oneOf blank) fun count _ hmost => ?_
  rw [preferred_literal (drop_add hrest count), if_neg]
  rw [List.isPrefixOf_iff_prefix]
  intro hbeginning
  have hsplit : rest.drop count =
      (rest.takeWhile isWhiteSpace).drop count ++ rest.dropWhile isWhiteSpace := by
    rw [runLength_eq hrest] at hmost
    conv_lhs => rw [← List.takeWhile_append_dropWhile (p := isWhiteSpace) (l := rest)]
    exact List.drop_append_of_le_length hmost
  rw [hsplit] at hbeginning
  -- Either all white space is taken, or the next character is white space and no `b`.
  cases hgap : (rest.takeWhile isWhiteSpace).drop count with
  | nil =>
      rw [hgap, List.nil_append] at hbeginning
      exact hby hbeginning
  | cons c others =>
      have hblank : isWhiteSpace c = true :=
        List.mem_takeWhile_imp (List.mem_of_mem_drop (hgap ▸ List.mem_cons_self))
      rw [hgap, List.cons_append] at hbeginning
      obtain rfl : 'b' = c := (List.cons_prefix_cons.mp hbeginning).1
      exact absurd hblank (by decide)

/-- Behind a word and white space there is no `by`. -/
theorem preferred_byPhrase_eq_none (hrest : text.toList.drop position = word ++ rest)
    (hword : ∀ c ∈ word, plain.contains c = true) (hends : EndsWord rest) :
    preferred text byPhrase position = none := by
  refine preferred_repeated_seq_eq_none (asSet?_oneOf inWord) fun count _ hmost => ?_
  -- A run of word characters stays inside the word: if it ends before, no white space follows.
  have hle := runLength_le_length hrest (avoids_inWord hends.avoids)
  have hbehind := drop_add hrest count
  rw [List.drop_append_of_le_length (Nat.le_trans hmost hle)] at hbehind
  cases htail : word.drop count with
  | nil =>
      rw [htail, List.nil_append] at hbehind
      exact preferred_by_eq_none hbehind hends.not_by
  | cons c others =>
      rw [htail, List.cons_append] at hbehind
      have hplain := hword c (List.mem_of_mem_drop (htail ▸ List.mem_cons_self))
      exact preferred_run_seq_eq_none hbehind (avoids_cons (not_blank_of_plain hplain) _)

/-- A word that is spelled otherwise than another one is not followed by white space where that
other one ends. -/
theorem avoids_drop_of_prefix {literal : List Char}
    (hliteral : ∀ c ∈ literal, plain.contains c = true)
    (hword : ∀ c ∈ word, plain.contains c = true) (hne : word ≠ literal)
    (havoids : Avoids plain rest) (hbeginning : literal <+: word ++ rest) :
    Avoids blank ((word ++ rest).drop literal.length) := by
  have hshort : literal <+: word := by
    by_contra hlong
    have hwithin : word <+: literal := by
      rcases List.prefix_or_prefix_of_prefix hbeginning (List.prefix_append word rest) with h | h
      · exact absurd h hlong
      · exact h
    obtain ⟨more, rfl⟩ := hwithin
    -- The literal would go on behind the word, but there stands no character of a word.
    have hmore : more <+: rest := (List.prefix_append_right_inj word).mp hbeginning
    cases more with
    | nil => exact hne (by simp)
    | cons c others =>
        obtain ⟨behind, rfl⟩ := hmore
        have hc := havoids c rfl
        rw [hliteral c (by simp)] at hc
        simp at hc
  obtain ⟨more, rfl⟩ := hshort
  rw [List.append_assoc, List.drop_left]
  cases more with
  | nil => simp at hne
  | cons c others => exact avoids_cons (not_blank_of_plain (hword c (by simp))) _

/-- Behind `distinct` something must follow white space. -/
theorem preferred_distinctPhrase_eq_none (hrest : text.toList.drop position = rest)
    (hbehind : ∀ literal ∈ ["distinct".toList, "DISTINCT".toList], literal <+: rest →
      Avoids blank (rest.drop literal.length)) :
    preferred text distinctPhrase position = none := by
  have hliteral : ∀ literal ∈ ["distinct".toList, "DISTINCT".toList],
      ∀ way ∈ ways text (.literal literal) position,
        preferred text (.seq (run blank 1 false) (run visible 1 true)) way.stop = none := by
    intro literal hliteral way hway
    obtain ⟨hstands, rfl⟩ := mem_ways_literal_iff.mp hway
    rw [hrest] at hstands
    exact preferred_run_seq_eq_none (drop_add hrest _) (hbehind literal hliteral hstands)
  rw [distinctPhrase, preferred_seq, List.findSome?_eq_none_iff]
  intro way hway
  rw [ways] at hway
  rcases List.mem_append.mp hway with hway | hway
  · exact hliteral _ (by simp) way hway
  · exact hliteral _ (by simp) way hway

end Nothing

/-! ## Lexemes -/

/-- With this text behind it, a lexeme is the preferred token wherever it stands. -/
def Reads (lexeme rest : List Char) : Prop :=
  ∀ (text : Array Char) (position : Nat), text.toList.drop position = lexeme ++ rest →
    preferred text alternatives position = some (position + lexeme.length)

/-- A word without white space and semicolons that is not spelled `distinct`. -/
structure Word (word : List Char) : Prop where
  ne_nil : word ≠ []
  all_plain : ∀ c ∈ word, plain.contains c = true
  ne_distinct : word ≠ "distinct".toList
  ne_upper_distinct : word ≠ "DISTINCT".toList

section Lexemes

variable {text : Array Char} {position : Nat} {word rest : List Char}

theorem Word.preferred_distinctPhrase (hword : Word word) (havoids : Avoids plain rest)
    (hrest : text.toList.drop position = word ++ rest) :
    preferred text distinctPhrase position = none := by
  refine preferred_distinctPhrase_eq_none hrest fun literal hliteral hbeginning => ?_
  rcases List.mem_pair.mp hliteral with rfl | rfl
  · have hall := List.all_eq_true.mp (show "distinct".toList.all plain.contains by decide)
    exact avoids_drop_of_prefix hall hword.all_plain hword.ne_distinct havoids hbeginning
  · have hall := List.all_eq_true.mp (show "DISTINCT".toList.all plain.contains by decide)
    exact avoids_drop_of_prefix hall hword.all_plain hword.ne_upper_distinct havoids hbeginning

theorem Word.preferred_plain (hword : Word word) (havoids : Avoids plain rest)
    (hrest : text.toList.drop position = word ++ rest) :
    preferred text (run plain 1 true) position = some (position + word.length) := by
  have hlength : 1 ≤ word.length := List.length_pos_of_ne_nil hword.ne_nil
  rw [run, preferred_greedy (asSet?_oneOf _), runLength_eq_length hrest hword.all_plain havoids,
    if_pos hlength]

theorem Word.reads (hword : Word word) (hdigit : Avoids digit word) (hends : EndsWord rest) :
    Reads word rest := by
  intro text position hrest
  have hnumbers : preferred text numbers position = none := by
    refine preferred_run_seq_eq_none hrest fun c hc => hdigit c ?_
    rwa [List.head?_append_of_ne_nil _ hword.ne_nil] at hc
  rw [alternatives, preferred_either, preferred_either, preferred_either,
    hword.preferred_distinctPhrase hends.avoids hrest,
    preferred_byPhrase_eq_none hrest hword.all_plain hends, hnumbers,
    hword.preferred_plain hends.avoids hrest]
  rfl

end Lexemes

/-! ## Numbers -/

section Numbers

variable {text : Array Char} {position : Nat} {word rest : List Char} {second : Expr}

/-- White space in front of an expression is passed as a whole, if the expression matches at no
white space. -/
theorem preferred_gap_seq {gap : List Char} {least : Nat} {greedy : Bool}
    (hrest : text.toList.drop position = gap ++ rest)
    (hgap : ∀ c ∈ gap, blank.contains c = true) (havoids : Avoids blank rest)
    (hleast : least ≤ gap.length)
    (hnone : ∀ passed, least ≤ passed → passed < gap.length →
      preferred text second (position + passed) = none) :
    preferred text (.seq (run blank least greedy) second) position =
      preferred text second (position + gap.length) := by
  have hrun := runLength_eq_length hrest hgap havoids
  have hpassed : ∀ count, least ≤ count → count ≤ runLength text blank position →
      preferred text second (position + count) = none ∨ count = gap.length := by
    intro count hcount hmost
    rw [hrun] at hmost
    exact (Nat.lt_or_eq_of_le hmost).imp_left (hnone count hcount)
  cases hsecond : preferred text second (position + gap.length) with
  | none =>
      refine preferred_repeated_seq_eq_none (asSet?_oneOf blank) fun count hcount hmost => ?_
      rcases hpassed count hcount hmost with hnothing | rfl
      · exact hnothing
      · exact hsecond
  | some stop =>
      refine preferred_repeated_seq_eq_some (asSet?_oneOf blank) (fun count hcount hmost => ?_)
        hleast (Nat.le_of_eq hrun.symm) hsecond
      rcases hpassed count hcount hmost with hnothing | rfl
      · exact .inl hnothing
      · exact .inr hsecond

/-- At the position stands a run of digits, with neither a digit nor white space behind it. -/
structure DigitRun (text : Array Char) (position : Nat) (word rest : List Char) : Prop where
  stands : text.toList.drop position = word ++ rest
  all_digits : ∀ c ∈ word, digit.contains c = true
  no_digit : Avoids digit rest
  no_blank : Avoids blank rest

/-- From every place in a run, the expression ends with the run if it matches. -/
def EndsWithRun (text : Array Char) (position length : Nat) (expr : Expr) : Prop :=
  ∀ count ≤ length, preferred text expr (position + count) = none ∨
    preferred text expr (position + count) = some (position + length)

namespace DigitRun

theorem drop (hrun : DigitRun text position word rest) {count : Nat}
    (hcount : count ≤ word.length) :
    DigitRun text (position + count) (word.drop count) rest where
  stands := by rw [drop_add hrun.stands, List.drop_append_of_le_length hcount]
  all_digits c hc := hrun.all_digits c (List.mem_of_mem_drop hc)
  no_digit := hrun.no_digit
  no_blank := hrun.no_blank

theorem runLength_digit (hrun : DigitRun text position word rest) :
    runLength text digit position = word.length :=
  runLength_eq_length hrun.stands hrun.all_digits hrun.no_digit

theorem avoids_blank (hrun : DigitRun text position word rest) : Avoids blank (word ++ rest) := by
  cases word with
  | nil => exact hrun.no_blank
  | cons c others => exact avoids_cons (not_blank_of_digit (hrun.all_digits c (by simp))) _

/-- No white space has to be passed in front of a run of digits. -/
theorem preferred_no_gap {greedy : Bool} (hrun : DigitRun text position word rest) :
    preferred text (.seq (run blank 0 greedy) second) position =
      preferred text second position := by
  have hrest : text.toList.drop position = [] ++ (word ++ rest) := hrun.stands
  exact preferred_gap_seq hrest (by simp) hrun.avoids_blank (Nat.zero_le _) (by simp)

theorem endsWithRun_digits (hrun : DigitRun text position word rest) :
    EndsWithRun text position word.length (run digit 1 true) := by
  intro count hcount
  rw [run, preferred_greedy (asSet?_oneOf digit), (hrun.drop hcount).runLength_digit,
    List.length_drop]
  split
  · exact .inr (congrArg some (by omega))
  · exact .inl rfl

theorem endsWithRun_digits_seq (hrun : DigitRun text position word rest)
    (hsecond : EndsWithRun text position word.length second) :
    EndsWithRun text position word.length (.seq (run digit 1 true) second) := by
  intro count hcount
  refine preferred_repeated_seq_or (asSet?_oneOf digit) fun more _ hmore => ?_
  rw [(hrun.drop hcount).runLength_digit, List.length_drop] at hmore
  rw [Nat.add_assoc]
  exact hsecond (count + more) (by omega)

theorem endsWithRun_gap_seq (hrun : DigitRun text position word rest)
    (hsecond : EndsWithRun text position word.length second) :
    EndsWithRun text position word.length (.seq (run blank 0 false) second) := by
  intro count hcount
  rw [(hrun.drop hcount).preferred_no_gap]
  exact hsecond count hcount

/-- Three numbers in a run of digits end where the run ends, if there are three. -/
theorem preferred_numbers (hrun : DigitRun text position word rest) :
    preferred text numbers position = none ∨
      preferred text numbers position = some (position + word.length) := by
  have hlast := hrun.endsWithRun_digits
  have htwo := hrun.endsWithRun_digits_seq (hrun.endsWithRun_gap_seq hlast)
  exact hrun.endsWithRun_digits_seq (hrun.endsWithRun_gap_seq htwo) 0 (Nat.zero_le _)

end DigitRun

theorem avoids_of_semicolon {set : CharSet} (hset : set.contains ';' = false)
    (hrest : ∀ c, rest.head? = some c → c = ';') : Avoids set rest := by
  intro c hc
  rwa [hrest c hc]

theorem endsWord_of_semicolon (hrest : ∀ c, rest.head? = some c → c = ';') : EndsWord rest := by
  refine ⟨avoids_of_semicolon (by decide) hrest, ?_⟩
  cases rest with
  | nil => simp
  | cons c others =>
      obtain rfl := hrest c rfl
      rw [List.dropWhile_cons_of_neg (by decide)]
      simp

theorem word_of_digits (hne : word ≠ []) (hword : ∀ c ∈ word, digit.contains c = true) :
    Word word := by
  refine ⟨hne, fun c hc => plain_iff.mpr ⟨not_blank_of_digit (hword c hc), ?_⟩, ?_, ?_⟩
  · rintro rfl
    exact absurd (hword _ hc) (by decide)
  · rintro rfl
    exact absurd (hword 'd' (by simp)) (by decide)
  · rintro rfl
    exact absurd (hword 'D' (by simp)) (by decide)

/-- A number at the end of a statement is read as a whole, however many digits it has. -/
theorem reads_number (hne : word ≠ []) (hword : ∀ c ∈ word, digit.contains c = true)
    (hrest : ∀ c, rest.head? = some c → c = ';') : Reads word rest := by
  intro text position hstands
  have hends := endsWord_of_semicolon hrest
  have hplain := word_of_digits hne hword
  have hrun : DigitRun text position word rest :=
    ⟨hstands, hword, avoids_of_semicolon (by decide) hrest,
      avoids_of_semicolon (by decide) hrest⟩
  rw [alternatives, preferred_either, preferred_either, preferred_either,
    hplain.preferred_distinctPhrase hends.avoids hstands,
    preferred_byPhrase_eq_none hstands hplain.all_plain hends,
    hplain.preferred_plain hends.avoids hstands]
  rcases hrun.preferred_numbers with hnumbers | hnumbers <;> simp [hnumbers]

end Numbers

/-! ## Phrases -/

section Phrases

variable {text : Array Char} {position : Nat} {word rest : List Char}

/-- Behind one space, something that begins with a visible character ends where it ends alone. -/
theorem preferred_space_seq {greedy : Bool} {second : Expr} {stop : Nat}
    (hrest : text.toList.drop position = ' ' :: rest) (hblank : Avoids blank rest)
    (hsecond : preferred text second (position + 1) = some stop) :
    preferred text (.seq (run blank 1 greedy) second) position = some stop := by
  have hspace : ∀ c ∈ [' '], blank.contains c = true := List.all_eq_true.mp (by decide)
  have hgap : text.toList.drop position = [' '] ++ rest := hrest
  rw [preferred_gap_seq hgap hspace hblank (Nat.le_refl 1) fun passed hleast hmost =>
    absurd hmost (Nat.not_lt_of_le hleast)]
  exact hsecond

/-- A word with `by` behind one space is one token. -/
theorem reads_byPhrase (hword : Word word) (hletters : ∀ c ∈ word, inWord.contains c = true)
    (rest : List Char) : Reads (word ++ " by".toList) rest := by
  intro text position hrest
  rw [List.append_assoc] at hrest
  have hspace : Avoids plain (" by".toList ++ rest) := avoids_cons (by decide) _
  have hrun : runLength text inWord position = word.length :=
    runLength_eq_length hrest hletters (avoids_cons (by decide) _)
  have hbehind : text.toList.drop (position + word.length) = ' ' :: ("by".toList ++ rest) := by
    rw [drop_add hrest, List.drop_left]
    rfl
  have hby : preferred text (.seq (run blank 1 true) (.literal "by".toList))
      (position + word.length) = some (position + (word ++ " by".toList).length) := by
    refine preferred_space_seq hbehind (avoids_cons (by decide) _) ?_
    have hafter := drop_add hbehind 1
    rw [List.drop_one, List.tail_cons] at hafter
    rw [preferred_literal hafter, if_pos (List.isPrefixOf_iff_prefix.mpr (List.prefix_append _ _))]
    simp only [List.length_append, Option.some.injEq]
    rfl
  have hphrase : preferred text byPhrase position =
      some (position + (word ++ " by".toList).length) := by
    refine preferred_repeated_seq_eq_some (asSet?_oneOf inWord) ?_
      (List.length_pos_of_ne_nil hword.ne_nil) (Nat.le_of_eq hrun.symm) hby
    intro count _ hmost
    rw [hrun] at hmost
    rcases Nat.lt_or_eq_of_le hmost with hshort | rfl
    · left
      have hinside := drop_add hrest count
      rw [List.drop_append_of_le_length hmost, List.drop_eq_getElem_cons hshort] at hinside
      have hplain := hword.all_plain _ (List.getElem_mem hshort)
      exact preferred_run_seq_eq_none hinside (avoids_cons (not_blank_of_plain hplain) _)
    · exact .inr hby
  rw [alternatives, preferred_either, preferred_either,
    hword.preferred_distinctPhrase hspace hrest, hphrase]
  rfl

/-- `distinct`, in small or capital letters, with a field behind one space is one token. -/
theorem reads_distinctPhrase {keyword : List Char}
    (hkeyword : keyword ∈ ["distinct".toList, "DISTINCT".toList]) (hne : word ≠ [])
    (hword : ∀ c ∈ word, visible.contains c = true) (hvisible : Avoids visible rest) :
    Reads (keyword ++ ' ' :: word) rest := by
  intro text position hdrop
  rw [List.append_assoc] at hdrop
  have hbehind : text.toList.drop (position + keyword.length) = ' ' :: (word ++ rest) := by
    rw [drop_add hdrop, List.drop_left]
    rfl
  have hblank : Avoids blank (word ++ rest) := by
    cases word with
    | nil => exact absurd rfl hne
    | cons c others =>
        have hc : (!blank.contains c) = true := hword c (by simp)
        exact avoids_cons (by simpa using hc) _
  have hfield : preferred text (run visible 1 true) (position + keyword.length + 1) =
      some (position + (keyword ++ ' ' :: word).length) := by
    have hafter := drop_add hbehind 1
    rw [List.drop_one, List.tail_cons] at hafter
    have hlength : 1 ≤ word.length := List.length_pos_of_ne_nil hne
    rw [run, preferred_greedy (asSet?_oneOf _), runLength_eq_length hafter hword hvisible,
      if_pos hlength, List.length_append, List.length_cons]
    exact congrArg some (by omega)
  have htail : preferred text (.seq (run blank 1 false) (run visible 1 true))
      (position + keyword.length) = some (position + (keyword ++ ' ' :: word).length) :=
    preferred_space_seq hbehind hblank hfield
  -- Both spellings have the same length, so whichever stands there ends at the same place.
  have hsize : ∀ literal ∈ ["distinct".toList, "DISTINCT".toList], literal.length = 8 := by
    decide
  have hlength : ∀ literal ∈ ["distinct".toList, "DISTINCT".toList],
      literal.length = keyword.length :=
    fun literal hliteral => (hsize literal hliteral).trans (hsize keyword hkeyword).symm
  have hway : (⟨position + keyword.length, []⟩ : Way) ∈
      ways text (.literal keyword) position :=
    mem_ways_literal_iff.mpr ⟨hdrop ▸ List.prefix_append _ _, rfl⟩
  have hstands : (⟨position + keyword.length, []⟩ : Way) ∈ ways text
      (.either (.literal "distinct".toList) (.literal "DISTINCT".toList)) position := by
    rw [ways]
    rcases List.mem_pair.mp hkeyword with rfl | rfl
    · exact List.mem_append_left _ hway
    · exact List.mem_append_right _ hway
  have hphrase : preferred text distinctPhrase position =
      some (position + (keyword ++ ' ' :: word).length) := by
    rw [distinctPhrase, ← htail]
    refine preferred_seq_of_stop (List.ne_nil_of_mem hstands) fun way hway => ?_
    rw [ways] at hway
    rcases List.mem_append.mp hway with hway | hway
    · obtain ⟨-, rfl⟩ := mem_ways_literal_iff.mp hway
      exact congrArg (position + ·) (hlength _ List.mem_cons_self)
    · obtain ⟨-, rfl⟩ := mem_ways_literal_iff.mp hway
      exact congrArg (position + ·) (hlength _ (by simp))
  rw [alternatives, preferred_either, hphrase]
  rfl

end Phrases

end CommandGrammar.Select
