import CommandGrammar.Proofs.Pattern.Caching
import CommandGrammar.Proofs.Session.Invariant
import CommandGrammar.Proofs.Tokens.Separators
import CommandGrammar.Settings
import Mathlib.Data.List.TakeWhile

/-! # Words

With the settings that nobody has changed, a command is cut at runs of white space. What it is cut
into are its words: the longest runs of characters that are no white space. White space around
words and between them makes no difference, neither in kind nor in number.
-/

namespace CommandGrammar

open Unicode
open Text (Span)

/-- The words of a text: what is left of it when it is split at white space, without the empty
parts. -/
def words (text : List Char) : List (List Char) :=
  (text.splitOnP isWhiteSpace).filter (!·.isEmpty)

/-- A longest run of characters that are no white space. -/
structure IsWord (text : List Char) (span : Span) : Prop where
  start_lt_stop : span.start < span.stop
  stop_le : span.stop ≤ text.length
  visible : ∀ place c, span.start ≤ place → place < span.stop → text[place]? = some c →
    isWhiteSpace c = false
  before : ∀ place c, place + 1 = span.start → text[place]? = some c → isWhiteSpace c = true
  behind : ∀ c, text[span.stop]? = some c → isWhiteSpace c = true

namespace IsWord

variable {text : List Char} {first second : Span}

/-- A word that reaches into another one does not begin behind it. -/
theorem start_le (hfirst : IsWord text first) (hsecond : IsWord text second)
    (hmeet : second.start < first.stop) : second.start ≤ first.start := by
  by_contra hlater
  have hpositive := Nat.ne_zero_of_lt (Nat.lt_of_not_le hlater)
  obtain ⟨place, hplace⟩ := Nat.exists_eq_succ_of_ne_zero hpositive
  have hbound := hfirst.stop_le
  have hin : place < text.length := by omega
  have hchar := List.getElem?_eq_getElem hin
  have hvisible := hfirst.visible place _ (by omega) (by omega) hchar
  rw [hsecond.before place _ hplace.symm hchar] at hvisible
  simp at hvisible

theorem stop_ge (hfirst : IsWord text first) (hsecond : IsWord text second)
    (hmeet : first.start < second.stop) : first.stop ≤ second.stop := by
  by_contra hlonger
  have hbound := hfirst.stop_le
  have hin : second.stop < text.length := by omega
  have hchar := List.getElem?_eq_getElem hin
  have hvisible := hfirst.visible _ _ (Nat.le_of_lt hmeet) (Nat.lt_of_not_le hlonger) hchar
  rw [hsecond.behind _ hchar] at hvisible
  simp at hvisible

/-- Words that overlap are the same. -/
theorem eq_of_meet (hfirst : IsWord text first) (hsecond : IsWord text second)
    (hleft : first.start < second.stop) (hright : second.start < first.stop) : first = second := by
  have hstart := Nat.le_antisymm (hsecond.start_le hfirst hleft) (hfirst.start_le hsecond hright)
  have hstop := Nat.le_antisymm (hfirst.stop_ge hsecond hleft) (hsecond.stop_ge hfirst hright)
  cases first
  cases second
  simp only at hstart hstop
  rw [hstart, hstop]

end IsWord

/-! ## Splitting at white space -/

section Splitting

variable {piece gap : List Char}

/-- What stands before and behind white space is split on its own. -/
theorem words_append_blank {c : Char} (hc : isWhiteSpace c = true) (first second : List Char) :
    words (first ++ c :: second) = words first ++ words second := by
  rw [words, List.splitOnP_append_cons first second hc, List.filter_append, words, words]

/-- White space at the front of a text belongs to no word. -/
theorem words_cons_blank {c : Char} (hc : isWhiteSpace c = true) (rest : List Char) :
    words (c :: rest) = words rest := by
  have hsplit := words_append_blank hc [] rest
  rwa [List.nil_append, show words [] = [] from rfl, List.nil_append] at hsplit

theorem words_gap_append (hgap : ∀ c ∈ gap, isWhiteSpace c = true) (rest : List Char) :
    words (gap ++ rest) = words rest := by
  induction gap with
  | nil => rfl
  | cons c more ih =>
      obtain ⟨hc, hmore⟩ := List.forall_mem_cons.mp hgap
      rw [List.cons_append, words_cons_blank hc, ih hmore]

theorem words_of_visible (hvisible : ∀ c ∈ piece, isWhiteSpace c = false) :
    words piece = [piece].filter (!·.isEmpty) := by
  rw [words, List.splitOnP_eq_singleton hvisible]

end Splitting

/-! ## Cutting at runs -/

section Runs

variable {text rest piece : List Char} {kind : Char → Bool} {place length : Nat}

namespace Separator

theorem head_of_length?_run (hnone : (run kind).length? rest = none) :
    ∀ c, rest.head? = some c → kind c = false := by
  intro c hc
  obtain ⟨others, rfl⟩ := List.head?_eq_some_iff.mp hc
  by_contra hkind
  rw [Bool.not_eq_false] at hkind
  simp [length?_run, List.takeWhile_cons_of_pos hkind] at hnone

theorem take_of_length?_run (hhere : (run kind).length? rest = some length) :
    ∀ c ∈ rest.take length, kind c = true := by
  intro c hc
  rw [length?_run] at hhere
  split at hhere
  next =>
    obtain rfl := Option.some.inj hhere
    rw [← List.prefix_iff_eq_take.mp (List.takeWhile_prefix kind)] at hc
    exact List.mem_takeWhile_imp hc
  next => simp at hhere

/-- A piece in which no run begins has no character of the kind. -/
theorem piece_of_length?_run (hnone : ∀ count < piece.length,
    (run kind).length? ((piece ++ rest).drop count) = none) : ∀ c ∈ piece, kind c = false := by
  intro c hc
  obtain ⟨count, hcount, rfl⟩ := List.mem_iff_getElem.mp hc
  refine head_of_length?_run (hnone count hcount) _ ?_
  rw [List.drop_append_of_le_length (Nat.le_of_lt hcount), List.drop_eq_getElem_cons hcount]
  rfl

end Separator

/-- The pieces between runs of white space are the words, if they hold anything. -/
theorem CutBy.filter_eq_words {pieces : List (List Char)}
    (hcut : CutBy (.run isWhiteSpace) text pieces) :
    pieces.filter (!·.isEmpty) = words text := by
  induction hcut with
  | @last piece hnone =>
      have hbefore : ∀ count < piece.length,
          (Separator.run isWhiteSpace).length? ((piece ++ []).drop count) = none := by
        intro count _
        rw [List.append_nil]
        exact hnone count
      rw [words_of_visible (Separator.piece_of_length?_run hbefore)]
  | @next piece taken rest pieces hbefore hhere _ ih =>
      have hvisible := Separator.piece_of_length?_run hbefore
      have hblank := Separator.take_of_length?_run hhere
      rw [List.take_left] at hblank
      obtain ⟨hpositive, _⟩ := Separator.bounds _ hhere
      obtain ⟨c, more, rfl⟩ := List.exists_cons_of_length_pos hpositive
      obtain ⟨hc, hmore⟩ := List.forall_mem_cons.mp hblank
      rw [List.cons_append, words_append_blank hc, words_gap_append hmore,
        words_of_visible hvisible, ← ih, ← List.filter_append, List.singleton_append]

/-! ## Where the words stand -/

theorem visible_of_length?_run
    (hnone : (Separator.run isWhiteSpace).length? (text.drop place) = none) :
    ∀ c, text[place]? = some c → isWhiteSpace c = false := by
  intro c hc
  exact Separator.head_of_length?_run hnone c (by rw [List.head?_drop, hc])

/-- A run of white space covers the places that it takes. -/
theorem blank_of_length?_run {start : Nat}
    (hhere : (Separator.run isWhiteSpace).length? (text.drop start) = some length) :
    ∀ place c, start ≤ place → place < start + length → text[place]? = some c →
      isWhiteSpace c = true := by
  intro place c hplace hlt hc
  refine Separator.take_of_length?_run hhere c (List.mem_of_getElem? (i := place - start) ?_)
  rw [List.getElem?_take_of_lt (by omega), List.getElem?_drop, Nat.add_sub_cancel' hplace, hc]

/-- A word that does not begin before white space begins behind it. -/
theorem IsWord.start_ge {span : Span} {start : Nat} (hspan : IsWord text span)
    (hhere : (Separator.run isWhiteSpace).length? (text.drop start) = some length)
    (hlater : start ≤ span.start) : start + length ≤ span.start := by
  by_contra hinside
  have hlt := hspan.start_lt_stop
  have hbound := hspan.stop_le
  have hchar : text[span.start]? = some _ := List.getElem?_eq_getElem (by omega)
  have hvisible := hspan.visible span.start _ (Nat.le_refl _) hlt hchar
  rw [blank_of_length?_run hhere span.start _ hlater (by omega) hchar] at hvisible
  simp at hvisible

/-- Behind a run of white space or at the beginning of the text, the stretches before, between and
behind the runs that follow are the words from there on, if they hold anything. -/
theorem Separated.mem_gaps_iff {position : Nat} {spans : List Span}
    (hseparated : Separated (.run isWhiteSpace) text position spans)
    (hahead : ∀ place c, place + 1 = position → text[place]? = some c → isWhiteSpace c = true)
    (span : Span) :
    (span ∈ Span.gaps position text.length spans ∧ span.start < span.stop) ↔
      position ≤ span.start ∧ IsWord text span := by
  induction hseparated with
  | @done position hnone =>
      have hword (hlt : position < text.length) : IsWord text ⟨position, text.length⟩ :=
        ⟨hlt, Nat.le_refl _, fun place c hplace _ => visible_of_length?_run (hnone place hplace) c,
          hahead, by simp⟩
      rw [Span.gaps, List.mem_singleton]
      constructor
      · rintro ⟨rfl, hlt⟩
        exact ⟨Nat.le_refl _, hword hlt⟩
      · rintro ⟨hstart, hspan⟩
        have hfull := hspan.start_lt_stop
        have hlt := Nat.lt_of_lt_of_le hfull hspan.stop_le
        have hmeet := Nat.lt_of_le_of_lt hstart hfull
        exact ⟨hspan.eq_of_meet (hword (Nat.lt_of_le_of_lt hstart hlt)) hlt hmeet, hfull⟩
  | @next position start length spans hstart hbefore hhere _ ih =>
      have hblank := blank_of_length?_run hhere
      obtain ⟨hpositive, hfits⟩ := Separated.stop_le hhere
      have hword (hlt : position < start) : IsWord text ⟨position, start⟩ :=
        ⟨hlt, Nat.le_of_add_right_le hfits,
          fun place c hplace hstop => visible_of_length?_run (hbefore place hplace hstop) c, hahead,
          fun c => hblank start c (Nat.le_refl _) (Nat.lt_add_of_pos_right hpositive)⟩
      have hmore := ih fun place c hplace => hblank place c (by omega) (by omega)
      rw [Span.gaps, List.mem_cons]
      constructor
      · rintro ⟨rfl | hspan, hlt⟩
        · exact ⟨Nat.le_refl _, hword hlt⟩
        · obtain ⟨hlater, hspan⟩ := hmore.mp ⟨hspan, hlt⟩
          exact ⟨by omega, hspan⟩
      · rintro ⟨hlater, hspan⟩
        have hlt := hspan.start_lt_stop
        refine ⟨?_, hlt⟩
        -- The word begins before the white space or behind it, for it holds none.
        by_cases hfirst : span.start < start
        · have hmeet : position < span.stop := Nat.lt_of_le_of_lt hlater hlt
          exact .inl (hspan.eq_of_meet (hword (Nat.lt_of_le_of_lt hlater hfirst)) hfirst hmeet)
        · have hbehind := hspan.start_ge hhere (Nat.le_of_not_lt hfirst)
          exact .inr (hmore.mpr ⟨hbehind, hspan⟩).1

end Runs

/-! ## The settings that nobody has changed -/

/-- A run of white space. -/
def blankRun : Expr := .repeated (.oneOf (.property .whiteSpace)) 1 none true

theorem read_blankRun : Pattern.read? Settings.default.pattern = .ok ⟨"\\s+", blankRun⟩ :=
  Pattern.read?_eq_ok_of_toOption (by decide)

theorem Search.prefers_blankRun : Prefers blankRun (.run isWhiteSpace) := by
  intro text position
  have hset : (Expr.oneOf (.property .whiteSpace)).asSet? = some (.property .whiteSpace) := rfl
  have hrun : runLength text (.property .whiteSpace) position =
      ((text.toList.drop position).takeWhile isWhiteSpace).length := rfl
  rw [blankRun, preferred_greedy hset, hrun, Separator.length?_run]
  split <;> rfl

namespace Tokenizer.CutsAt

variable {tokenizer : Tokenizer}

theorem tokenize_eq_words (hcuts : tokenizer.CutsAt (.run isWhiteSpace)) (command : String) :
    tokenizer.tokenize command = (words command.toList).map String.ofList := by
  obtain ⟨pieces, hpieces⟩ := exists_cutBy (.run isWhiteSpace) command.toList
  rw [hcuts.tokenize_eq hpieces, hpieces.filter_eq_words]

/-- The words of a text, in order, are its longest runs of visible characters. -/
theorem words_eq_spans (hcuts : tokenizer.CutsAt (.run isWhiteSpace)) (text : List Char) :
    ∃ spans : List Span, spans.Pairwise (fun first second => first.stop ≤ second.start) ∧
      (∀ span, span ∈ spans ↔ IsWord text span) ∧ words text = spans.map (·.slice text) := by
  obtain ⟨marks, hmarks, hselected⟩ := hcuts text
  have horder := tokenizer.inOrder_spans text
  rw [hselected] at horder
  have hcut : CutBy (.run isWhiteSpace) text _ := hmarks.cutBy
  refine ⟨_, (horder.filter (!·.isEmpty)).pairwise, fun span => ?_, ?_⟩
  · have hmem := hmarks.mem_gaps_iff (by simp) span
    rw [List.mem_filter]
    simpa [Span.isEmpty] using hmem
  · rw [← hcut.filter_eq_words, Span.filter_map_slice horder.within_of_mem]

end Tokenizer.CutsAt

/-- Unless the settings say otherwise, a command is cut into its words, which are its longest runs
of characters that are no white space, and in every state of a dispatcher two commands with the
same words have the same outcome and leave the same dispatcher. -/
theorem Settings.default_cuts_words {cache : PatternCache} (hcache : cache.Faithful) :
    ∃ tokenizer, (Settings.default.tokenizer cache).1 = .ok tokenizer ∧
      (∀ command : String,
        tokenizer.tokenize command = (words command.toList).map String.ofList ∧
        ∃ spans : List Span, spans.Pairwise (fun first second => first.stop ≤ second.start) ∧
          (∀ span, span ∈ spans ↔ IsWord command.toList span) ∧
          words command.toList = spans.map (·.slice command.toList)) ∧
      ∀ (R : Type) (dispatcher : Dispatcher R), dispatcher.tokenizer = tokenizer →
        ∀ first second : String, words first.toList = words second.toList →
          (dispatcher.run first).outcome = (dispatcher.run second).outcome ∧
            (dispatcher.run first).dispatcher = (dispatcher.run second).dispatcher := by
  have hcuts : (Tokenizer.separator ⟨"\\s+", blankRun⟩).CutsAt (.run isWhiteSpace) :=
    cutsAt_pattern (by decide) Search.prefers_blankRun
  refine ⟨_, hcache.makeWith_regex_eq_ok read_blankRun, fun command =>
    ⟨hcuts.tokenize_eq_words command, hcuts.words_eq_spans command.toList⟩, ?_⟩
  intro R dispatcher htokenizer first second hwords
  have htokens : dispatcher.tokenizer.tokenize first = dispatcher.tokenizer.tokenize second := by
    rw [htokenizer, hcuts.tokenize_eq_words, hcuts.tokenize_eq_words, hwords]
  simp only [Dispatcher.run, htokens, and_self]

/-- Tabulators, line feeds and spaces at both ends do not count, and neither does how many there are
between two words. -/
theorem Settings.default_cuts_words_use : PatternCache.empty.Faithful ∧
    ∃ tokenizer, (Settings.default.tokenizer .empty).1 = .ok tokenizer ∧
      tokenizer.tokenize " use \t alice\nshow" = ["use", "alice", "show"] ∧
      ∀ dispatcher, dispatcher = { Dispatcher.nameShower with tokenizer } →
        (dispatcher.run " use \t alice\nshow").outcome = .executed ["alice"] ∧
        (dispatcher.run "use alice show ").outcome = .executed ["alice"] := by
  obtain ⟨tokenizer, hmade, hwords, hrun⟩ :=
    Settings.default_cuts_words PatternCache.Faithful.empty
  have htokens : tokenizer.tokenize " use \t alice\nshow" = ["use", "alice", "show"] := by
    rw [(hwords _).1]
    decide
  refine ⟨PatternCache.Faithful.empty, tokenizer, hmade, htokens, ?_⟩
  rintro dispatcher rfl
  have hfirst : (Dispatcher.run { Dispatcher.nameShower with tokenizer }
      " use \t alice\nshow").outcome = .executed ["alice"] := by
    rw [Dispatcher.run, htokens]
    rfl
  exact ⟨hfirst, (hrun _ _ rfl _ _ (by decide)).1.trans hfirst⟩

end CommandGrammar
