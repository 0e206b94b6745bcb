import CommandGrammar.Proofs.Select.Forms
import Mathlib.Data.List.DropRight

/-! # Where words are split

A word of a text is a longest run of characters that are neither white space nor semicolons. Tokens
do not begin inside a word unless another one ends there, and only two forms of tokens can end
inside one: a word with `by`, when the next word merely begins with `by`, and three numbers, when
the word goes on behind its digits. Every other word lies in a single token.
-/

namespace CommandGrammar

namespace Select

open Search Unicode
open Text (Span)

variable {text : Array Char} {position : Nat} {spans : List Span}

/-! ## Tokens in order -/

theorem mem_slice {chars : List Char} {span : Span} {place : Nat} {c : Char}
    (hc : chars[place]? = some c) (hstart : span.start ≤ place) (hstop : place < span.stop) :
    c ∈ span.slice chars := by
  apply List.mem_of_getElem? (i := place - span.start)
  rw [Span.slice, List.getElem?_take_of_lt (by omega), List.getElem?_drop,
    Nat.add_sub_cancel' hstart, hc]

/-- Every significant character lies in a token. -/
theorem Cut.exists_covering (hcut : Cut text position spans) {place : Nat} {c : Char}
    (hplace : position ≤ place) (hc : text.toList[place]? = some c)
    (hsignificant : plain.contains c = true) :
    ∃ span ∈ spans, span.start ≤ place ∧ place < span.stop := by
  induction hcut with
  | @done position hgap =>
      have hmem : c ∈ text.toList.drop position := by
        apply List.mem_of_getElem? (i := place - position)
        rw [List.getElem?_drop, Nat.add_sub_cancel' hplace, hc]
      rw [hgap c hmem] at hsignificant
      simp at hsignificant
  | @token position stop gap rest spans hrest hgap hpreferred _ ih =>
      by_cases hbefore : place < position + gap.length
      · have hmem : c ∈ gap := by
          apply List.mem_of_getElem? (i := place - position)
          rw [← List.getElem?_append_left (by omega), ← hrest, List.getElem?_drop,
            Nat.add_sub_cancel' hplace, hc]
        rw [hgap c hmem] at hsignificant
        simp at hsignificant
      by_cases hinside : place < stop
      · exact ⟨_, List.mem_cons_self, Nat.le_of_not_lt hbefore, hinside⟩
      by_cases hdropped : place < stop + runLength text (.single ';') stop
      · have hmem : c ∈ Span.slice text.toList
            ⟨stop, stop + runLength text (.single ';') stop⟩ :=
          mem_slice hc (Nat.le_of_not_lt hinside) hdropped
        rw [semicolons_of_runLength text stop c hmem] at hsignificant
        exact absurd hsignificant (by decide)
      · obtain ⟨span, hspan, hcovers⟩ := ih (Nat.le_of_not_lt hdropped)
        exact ⟨span, List.mem_cons_of_mem _ hspan, hcovers⟩

theorem Cut.le_start (hcut : Cut text position spans) : ∀ span ∈ spans, position ≤ span.start := by
  induction hcut with
  | done => simp
  | @token position stop gap rest spans _ _ hpreferred _ ih =>
      have hbounds := preferred_alternatives_bounds hpreferred
      refine List.forall_mem_cons.mpr ⟨Nat.le_add_right _ _, fun span hspan => ?_⟩
      have hlater := ih span hspan
      omega

/-- Of two tokens one ends before the other begins. -/
theorem Cut.apart (hcut : Cut text position spans) : ∀ first ∈ spans, ∀ second ∈ spans,
    first = second ∨ first.stop ≤ second.start ∨ second.stop ≤ first.start := by
  induction hcut with
  | done => simp
  | token _ _ _ hspans ih =>
      have hlater := hspans.le_start
      intro first hfirst second hsecond
      rcases List.mem_cons.mp hfirst with rfl | hfirst
      · rcases List.mem_cons.mp hsecond with rfl | hsecond
        · exact .inl rfl
        · exact .inr (.inl (Nat.le_of_add_right_le (hlater second hsecond)))
      · rcases List.mem_cons.mp hsecond with rfl | hsecond
        · exact .inr (.inr (Nat.le_of_add_right_le (hlater first hfirst)))
        · exact ih first hfirst second hsecond

/-! ## Words -/

/-- The word stands between two parts of a text as a longest run of significant characters. -/
structure MaximalRun (before word behind : List Char) : Prop where
  run : RunOf significant word
  before : ∀ c, before.getLast? = some c → significant c = false
  behind : ∀ c, behind.head? = some c → significant c = false

/-- The token holds the whole word that stands behind a part of a text. -/
def Covers (before word : List Char) (token : Span) : Prop :=
  token.start ≤ before.length ∧ before.length + word.length ≤ token.stop

/-- The token ends inside the word: behind the `by` or behind the digits that the word begins
with. -/
inductive Splits (text before word : List Char) (token : Span) : Prop
  | behindBy {unread : List Char} (hword : word = "by".toList ++ unread) (hne : unread ≠ [])
      (hstop : token.stop = before.length + 2) (hphrase : ByPhrase (token.slice text))
  | behindDigits {digits unread : List Char} (hword : word = digits ++ unread)
      (hdigits : RunOf isDecimalDigit digits) (hne : unread ≠ []) (hends : Avoids digit unread)
      (hstop : token.stop = before.length + digits.length)
      (hnumbers : ThreeNumbers (token.slice text))

theorem Splits.bounds {text before word : List Char} {token : Span}
    (hsplits : Splits text before word token) :
    before.length < token.stop ∧ token.stop < before.length + word.length := by
  cases hsplits with
  | behindBy hword hne hstop =>
      have hlength := List.length_pos_of_ne_nil hne
      rw [hword, hstop, List.length_append, show "by".toList.length = 2 from rfl]
      omega
  | behindDigits hword hdigits hne _ hstop =>
      have hlength := List.length_pos_of_ne_nil hne
      have hsome := List.length_pos_of_ne_nil hdigits.ne_nil
      rw [hword, hstop, List.length_append]
      omega

/-- The significant characters at the end of a list are the last ones behind one that is not. -/
theorem rtakeWhile_significant {ahead read : List Char} (hread : ∀ c ∈ read, significant c = true)
    (hahead : ∀ c, ahead.getLast? = some c → significant c = false) :
    (ahead ++ read).rtakeWhile significant = read := by
  have hnone : ahead.reverse.takeWhile significant = [] := by
    cases hlast : ahead.reverse with
    | nil => rfl
    | cons c others =>
        have hc : ahead.getLast? = some c := by rw [← List.head?_reverse, hlast, List.head?_cons]
        rw [List.takeWhile_cons_of_neg (by simp [hahead c hc])]
  rw [List.rtakeWhile, List.reverse_append, List.takeWhile_append_of_pos (by simpa using hread),
    hnone, List.append_nil, List.reverse_reverse]

/-- Behind the last white space of a word with `by` there is nothing but `by`. -/
theorem ByPhrase.eq_by {ahead read : List Char} (hphrase : ByPhrase (ahead ++ read))
    (hread : ∀ c ∈ read, significant c = true)
    (hahead : ∀ c, ahead.getLast? = some c → significant c = false) : read = "by".toList := by
  obtain ⟨word, gap, htoken, _, hgap⟩ := hphrase
  rw [← rtakeWhile_significant hread hahead, htoken, ← List.append_assoc]
  apply rtakeWhile_significant
  · exact List.all_eq_true.mp (by decide)
  · intro c hc
    rw [List.getLast?_append_of_ne_nil _ hgap.ne_nil] at hc
    simp [significant, hgap.all c (List.mem_of_getLast? hc)]

section Word

variable {before word behind read unread : List Char} {token : Span}

/-- If a token ends inside a word, it is one of those that split words. -/
theorem splits_of_form (hrun : MaximalRun before (read ++ unread) behind) (hread : read ≠ [])
    (hunread : unread ≠ []) (hstop : token.stop = before.length + read.length)
    (hslice : token.slice (before ++ (read ++ unread ++ behind)) = before.drop token.start ++ read)
    (hform : Form (token.slice (before ++ (read ++ unread ++ behind))) (unread ++ behind)) :
    Splits (before ++ (read ++ unread ++ behind)) before (read ++ unread) token := by
  obtain ⟨c, others, rfl⟩ := List.exists_cons_of_ne_nil hunread
  have hsignificant : ∀ c ∈ read, significant c = true :=
    fun c hc => hrun.run.all c (List.mem_append_left _ hc)
  -- The word goes on with a character at which neither a field nor a plain run ends.
  have hnext : plain.contains c = true := by
    rw [contains_plain]
    exact hrun.run.all c (by simp)
  have hahead : ∀ c, (before.drop token.start).getLast? = some c → significant c = false := by
    intro c hc
    rw [List.getLast?_drop] at hc
    split at hc
    · simp at hc
    · exact hrun.before c hc
  cases hform with
  | distinctPhrase _ hends =>
      have hvisible := hends c rfl
      simp [visible, CharSet.contains, not_blank_of_plain hnext] at hvisible
  | plain _ hends =>
      rw [hends c rfl] at hnext
      simp at hnext
  | byPhrase hphrase =>
      rw [hslice] at hphrase
      have hby := hphrase.eq_by hsignificant hahead
      subst hby
      rw [← hslice] at hphrase
      exact .behindBy rfl (by simp) hstop hphrase
  | numbers hnumbers hends =>
      refine .behindDigits rfl ⟨hread, fun d hd => ?_⟩ hunread ?_ hstop hnumbers
      · have hmem : d ∈ token.slice (before ++ (read ++ c :: others ++ behind)) := by
          rw [hslice]
          exact List.mem_append_right _ hd
        have hboth := hsignificant d hd
        simp only [significant, Bool.and_eq_true, Bool.not_eq_true'] at hboth
        exact hnumbers.isDecimalDigit_of_mem hmem hboth.1
      · exact fun d hd => hends d (by simpa using hd)

/-- The token in which a word begins either holds the whole word or splits it. -/
theorem Cut.covers_or_splits {word : List Char} (hcut : Cut text 0 spans)
    (htext : text.toList = before ++ (word ++ behind)) (hrun : MaximalRun before word behind) :
    ∃ token ∈ spans, Covers before word token ∨ Splits text.toList before word token := by
  obtain ⟨c, others, hword⟩ := List.exists_cons_of_ne_nil hrun.run.ne_nil
  have hc : text.toList[before.length]? = some c := by simp [htext, hword]
  have hsignificant : plain.contains c = true := by
    rw [contains_plain]
    exact hrun.run.all c (by simp [hword])
  obtain ⟨token, htoken, hstart, hstop⟩ :=
    hcut.exists_covering (Nat.zero_le _) hc hsignificant
  refine ⟨token, htoken, ?_⟩
  by_cases hwhole : before.length + word.length ≤ token.stop
  · exact .inl ⟨hstart, hwhole⟩
  obtain ⟨_, hform⟩ := hcut.form_of_mem htoken
  -- The token ends inside the word, so the word consists of what was read and what was not.
  obtain ⟨count, hcount⟩ := Nat.exists_eq_add_of_le hstop.le
  obtain ⟨read, unread, rfl, hlength⟩ : ∃ read unread, word = read ++ unread ∧
      read.length = count :=
    ⟨word.take count, word.drop count, (List.take_append_drop count word).symm,
      List.length_take_of_le (by omega)⟩
  rw [List.length_append] at hwhole
  have hslice : token.slice text.toList = before.drop token.start ++ read := by
    have hsize : token.stop - token.start = (before.drop token.start ++ read).length := by
      rw [List.length_append, List.length_drop]
      omega
    rw [Span.slice, htext, List.drop_append_of_le_length hstart, List.append_assoc,
      ← List.append_assoc (before.drop _), hsize, List.take_left]
  have hrest : text.toList.drop token.stop = unread ++ behind := by
    rw [htext, hcount, List.drop_length_add_append, ← hlength, List.append_assoc, List.drop_left]
  rw [hrest] at hform
  rw [htext] at hslice hform ⊢
  exact .inr (splits_of_form hrun (List.ne_nil_of_length_pos (by omega))
    (List.ne_nil_of_length_pos (by omega)) (by omega) hslice hform)

/-- A word that lies in one token is split by none. -/
theorem Cut.not_splits {word : List Char} (hcut : Cut text 0 spans) {whole other : Span}
    (hwhole : whole ∈ spans) (hcovers : Covers before word whole) (hother : other ∈ spans) :
    ¬ Splits text.toList before word other := by
  intro hsplits
  obtain ⟨hbegun, hinside⟩ := hsplits.bounds
  obtain ⟨hstart, hstop⟩ := hcovers
  have hlt := (hcut.form_of_mem hother).1
  rcases hcut.apart whole hwhole other hother with rfl | hbehind | hbefore
  · omega
  · omega
  · omega

end Word

/-! ## The tokenizer -/

/-- Behind a word `by` is taken for a token's end, although the next word only begins with it. -/
theorem spans_users_bytes :
    (Tokenizer.extraction ⟨lexicalPattern, lexicalExpr⟩ lexicalGroup).spans "users bytes".toList =
      [⟨0, 8⟩, ⟨8, 11⟩] := by
  let text := "users bytes".toList.toArray
  have hfind (start : Nat) : find? text lexicalExpr start = _ := find?_eq flat_lexicalExpr start
  have htiles : Tiles text lexicalExpr 0
      [⟨⟨0, 8⟩, [(1, ⟨0, 8⟩)]⟩, ⟨⟨8, 11⟩, [(1, ⟨8, 11⟩)]⟩] :=
    .next ((hfind 0).trans (by decide)) (by decide) (by decide)
      (.next ((hfind 8).trans (by decide)) (by decide) (by decide)
        (.done ((hfind 11).trans (by decide))))
  exact spans_of_tiles htiles

/-- The four digits of a year are three numbers with no space between them. -/
theorem spans_date :
    (Tokenizer.extraction ⟨lexicalPattern, lexicalExpr⟩ lexicalGroup).spans "2024-01-01".toList =
      [⟨0, 4⟩, ⟨4, 10⟩] := by
  let text := "2024-01-01".toList.toArray
  have hfind (start : Nat) : find? text lexicalExpr start = _ := find?_eq flat_lexicalExpr start
  have htiles : Tiles text lexicalExpr 0
      [⟨⟨0, 4⟩, [(1, ⟨0, 4⟩)]⟩, ⟨⟨4, 10⟩, [(1, ⟨4, 10⟩)]⟩] :=
    .next ((hfind 0).trans (by decide)) (by decide) (by decide)
      (.next ((hfind 4).trans (by decide)) (by decide) (by decide)
        (.done ((hfind 10).trans (by decide))))
  exact spans_of_tiles htiles

/-- Whatever the text, a word lies in a single token exactly if no token splits it, and a token can
split it only behind a `by` or behind the digits that the word begins with. A word that begins with
neither `by` nor a digit always lies in a single token. -/
theorem tokenizer_keeps_words {cache : PatternCache} (hcache : cache.Faithful) :
    ∃ tokenizer, (Select.tokenizer cache).1 = .ok tokenizer ∧
      ∀ (command : String) (before word behind : List Char),
        command.toList = before ++ (word ++ behind) → MaximalRun before word behind →
        ((∃ token ∈ tokenizer.spans command.toList, Covers before word token) ↔
          ∀ token ∈ tokenizer.spans command.toList,
            ¬ Splits command.toList before word token) ∧
        (¬ "by".toList <+: word → (∀ c ∈ word.head?, isDecimalDigit c = false) →
          ∃ token ∈ tokenizer.spans command.toList, Covers before word token) := by
  refine ⟨_, tokenizer_eq hcache, fun command before word behind hcommand hrun => ?_⟩
  obtain ⟨spans, hcut⟩ := exists_cut (Nat.zero_le command.toList.toArray.size)
  have heither := hcut.covers_or_splits hcommand hrun
  rw [hcut.spans_eq]
  refine ⟨⟨?_, ?_⟩, fun hby hdigit => ?_⟩
  · rintro ⟨whole, hwhole, hcovers⟩ token htoken
    exact hcut.not_splits hwhole hcovers htoken
  · intro hnone
    obtain ⟨token, htoken, hcovers | hsplits⟩ := heither
    · exact ⟨token, htoken, hcovers⟩
    · exact absurd hsplits (hnone token htoken)
  · obtain ⟨token, htoken, hcovers | hsplits⟩ := heither
    · exact ⟨token, htoken, hcovers⟩
    cases hsplits with
    | behindBy hword => exact absurd (hword ▸ List.prefix_append _ _) hby
    | behindDigits hword hdigits =>
        obtain ⟨c, others, rfl⟩ := List.exists_cons_of_ne_nil hdigits.ne_nil
        have hnone := hdigit c (by simp [hword])
        simp [hdigits.all c List.mem_cons_self] at hnone

/-- The word `bytes` behind `users` is split behind its `by`, so no token holds it. -/
theorem tokenizer_keeps_words_bytes :
    PatternCache.empty.Faithful ∧
      "users bytes".toList = "users ".toList ++ ("bytes".toList ++ []) ∧
      MaximalRun "users ".toList "bytes".toList [] ∧
      ∃ tokenizer, (Select.tokenizer .empty).1 = .ok tokenizer ∧
        ¬ ∃ token ∈ tokenizer.spans "users bytes".toList,
          Covers "users ".toList "bytes".toList token := by
  have hfaithful := PatternCache.Faithful.empty
  have hspace : ∀ c, "users ".toList.getLast? = some c → significant c = false := by
    intro c hc
    obtain rfl : ' ' = c := Option.some.inj hc
    decide
  have hrun : MaximalRun "users ".toList "bytes".toList [] :=
    ⟨⟨by decide, List.all_eq_true.mp (by decide)⟩, hspace, by simp⟩
  obtain ⟨tokenizer, hmade, hall⟩ := tokenizer_keeps_words hfaithful
  obtain rfl := Except.ok.inj (hmade.symm.trans (tokenizer_eq hfaithful))
  refine ⟨hfaithful, rfl, hrun, _, hmade, fun hcovered => ?_⟩
  have hnone := (hall "users bytes" _ _ _ rfl hrun).1.mp hcovered
  have htoken : (⟨0, 8⟩ : Span) ∈ (Tokenizer.extraction ⟨lexicalPattern, lexicalExpr⟩
      lexicalGroup).spans "users bytes".toList := by
    rw [spans_users_bytes]
    decide
  have hphrase : ByPhrase "users by".toList :=
    ⟨"users".toList, " ".toList, rfl, ⟨by decide, List.all_eq_true.mp (by decide)⟩,
      ⟨by decide, List.all_eq_true.mp (by decide)⟩⟩
  have hword : "bytes".toList = "by".toList ++ "tes".toList := rfl
  exact hnone _ htoken (.behindBy hword (by decide) rfl hphrase)

/-- The digits at the beginning of a date are cut off, so no token holds the date. -/
theorem tokenizer_cuts_date :
    ∃ tokenizer, (Select.tokenizer .empty).1 = .ok tokenizer ∧
      MaximalRun [] "2024-01-01".toList [] ∧
      ¬ ∃ token ∈ tokenizer.spans "2024-01-01".toList, Covers [] "2024-01-01".toList token := by
  refine ⟨_, tokenizer_eq .empty,
    ⟨⟨by decide, List.all_eq_true.mp (by decide)⟩, by simp, by simp⟩, ?_⟩
  rw [spans_date]
  rintro ⟨token, htoken, hstart, hstop⟩
  rcases List.mem_pair.mp htoken with rfl | rfl
  · exact absurd hstop (by decide)
  · exact absurd hstart (by decide)

end Select

end CommandGrammar
