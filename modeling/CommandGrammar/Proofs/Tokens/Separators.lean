import CommandGrammar.Proofs.Pattern.Preferred
import CommandGrammar.Proofs.Tokens.Selection

/-! # Cutting a text at separators

A separator is known by what it takes at the beginning of what is left of a text. The leftmost
separators of a text that do not overlap are found one behind the other, and there is only one way
to find them: a scan for a delimiter and a search for the matches of a pattern come to the same
spans if they agree on what stands at each position. Between the separators lie the pieces of the
text, and the tokens are the pieces that hold a character.
-/

namespace CommandGrammar

open Text (Span)

/-- What separates tokens. It tells how many characters it takes at the beginning of what is left
of a text, if it stands there: at least one, and no more than there are. -/
structure Separator where
  length? : List Char → Option Nat
  bounds : ∀ {rest : List Char} {length : Nat}, length? rest = some length →
    0 < length ∧ length ≤ rest.length

namespace Separator

/-- A fixed text. -/
def mark (delimiter : List Char) (hne : delimiter ≠ []) : Separator where
  length? rest := if delimiter.isPrefixOf rest then some delimiter.length else none
  bounds {rest length} hlength := by
    split at hlength
    next hstands =>
      obtain rfl := Option.some.inj hlength
      have hprefix := List.isPrefixOf_iff_prefix.mp hstands
      exact ⟨List.length_pos_of_ne_nil hne, hprefix.length_le⟩
    next => simp at hlength

/-- A longest run of characters of a kind. -/
def run (kind : Char → Bool) : Separator where
  length? rest :=
    if 1 ≤ (rest.takeWhile kind).length then some (rest.takeWhile kind).length else none
  bounds {rest length} hlength := by
    split at hlength
    next hsome =>
      obtain rfl := Option.some.inj hlength
      exact ⟨hsome, (List.takeWhile_prefix kind).length_le⟩
    next => simp at hlength

theorem length?_mark (delimiter rest : List Char) (hne : delimiter ≠ []) :
    (mark delimiter hne).length? rest =
      if delimiter.isPrefixOf rest then some delimiter.length else none := rfl

theorem length?_run (kind : Char → Bool) (rest : List Char) :
    (run kind).length? rest =
      if 1 ≤ (rest.takeWhile kind).length then some (rest.takeWhile kind).length else none := rfl

theorem length?_nil (separator : Separator) : separator.length? [] = none := by
  cases hlength : separator.length? [] with
  | none => rfl
  | some length =>
      obtain ⟨hpositive, hfits⟩ := separator.bounds hlength
      exact absurd hfits (Nat.not_le_of_lt hpositive)

end Separator

/-- From a position on, these are the leftmost separators of a text, none of which overlaps the one
before it. -/
inductive Separated (separator : Separator) (text : List Char) : Nat → List Span → Prop
  | done {position : Nat}
      (hnone : ∀ place, position ≤ place → separator.length? (text.drop place) = none) :
      Separated separator text position []
  | next {position start length : Nat} {spans : List Span} (hstart : position ≤ start)
      (hbefore : ∀ place, position ≤ place → place < start →
        separator.length? (text.drop place) = none)
      (hhere : separator.length? (text.drop start) = some length)
      (hrest : Separated separator text (start + length) spans) :
      Separated separator text position (⟨start, start + length⟩ :: spans)

namespace Separated

variable {separator : Separator} {text : List Char} {position : Nat} {spans : List Span}

/-- A position where no separator stands is passed. -/
theorem pass (hseparated : Separated separator text (position + 1) spans)
    (hnone : separator.length? (text.drop position) = none) :
    Separated separator text position spans := by
  cases hseparated with
  | done hbehind =>
      refine .done fun place hplace => ?_
      rcases Nat.eq_or_lt_of_le hplace with rfl | hlater
      · exact hnone
      · exact hbehind place hlater
  | next hstart hbefore hhere hrest =>
      refine .next (Nat.le_of_succ_le hstart) (fun place hplace hlt => ?_) hhere hrest
      rcases Nat.eq_or_lt_of_le hplace with rfl | hlater
      · exact hnone
      · exact hbefore place hlater hlt

/-- There is only one way to separate a text. -/
theorem unique {others : List Span} (hfirst : Separated separator text position spans)
    (hsecond : Separated separator text position others) : spans = others := by
  induction hfirst generalizing others with
  | done hnone =>
      cases hsecond with
      | done => rfl
      | next hstart _ hhere =>
          rw [hnone _ hstart] at hhere
          simp at hhere
  | @next position start length spans hstart hbefore hhere _ ih =>
      cases hsecond with
      | done hnone =>
          rw [hnone start hstart] at hhere
          simp at hhere
      | @next _ other more _ hother hahead hthere hrest =>
          -- Neither separator begins before the other one, so both take the same characters.
          have hsame : start = other := by
            rcases Nat.lt_trichotomy start other with hlt | heq | hlt
            · rw [hahead start hstart hlt] at hhere
              simp at hhere
            · exact heq
            · rw [hbefore other hother hlt] at hthere
              simp at hthere
          subst hsame
          obtain rfl := Option.some.inj (hhere.symm.trans hthere)
          rw [ih hrest]

theorem stop_le {start length : Nat} (hhere : separator.length? (text.drop start) = some length) :
    0 < length ∧ start + length ≤ text.length := by
  obtain ⟨hpositive, hfits⟩ := separator.bounds hhere
  rw [List.length_drop] at hfits
  exact ⟨hpositive, by omega⟩

end Separated

/-- Every text is separated in some way. -/
theorem exists_separated (separator : Separator) (text : List Char) {position : Nat}
    (hposition : position ≤ text.length) : ∃ spans, Separated separator text position spans := by
  obtain ⟨left, hleft⟩ := Nat.exists_eq_add_of_le hposition
  -- A separator takes at least one character, so the induction is on what is left of the text.
  induction left using Nat.strongRecOn generalizing position with
  | ind left ih =>
      cases hhere : separator.length? (text.drop position) with
      | some length =>
          obtain ⟨hpositive, hfits⟩ := Separated.stop_le hhere
          obtain ⟨spans, hspans⟩ := ih (left - length) (by omega) hfits (by omega)
          exact ⟨_, .next (Nat.le_refl _) (by omega) hhere hspans⟩
      | none =>
          cases left with
          | zero =>
              refine ⟨[], .done fun place hplace => ?_⟩
              rw [List.drop_eq_nil_of_le (by omega)]
              exact separator.length?_nil
          | succ left =>
              have hbound : position + 1 ≤ text.length := by omega
              obtain ⟨spans, hspans⟩ := ih left (Nat.lt_succ_self _) hbound (by omega)
              exact ⟨spans, hspans.pass hhere⟩

/-! ## Two ways to search -/

/-- The scan for a delimiter finds what separates the text. -/
theorem separated_occurrences {delimiter : List Char} (hne : delimiter ≠ []) {text rest : List Char}
    {position skip : Nat} (hrest : text.drop position = rest) (hskip : skip ≤ rest.length) :
    Separated (.mark delimiter hne) text (position + skip)
      (Text.occurrences delimiter position skip rest) := by
  induction rest generalizing position skip with
  | nil =>
      obtain rfl := Nat.le_zero.mp hskip
      refine .done fun place hplace => ?_
      obtain ⟨passed, rfl⟩ := Nat.exists_eq_add_of_le hplace
      rw [Nat.add_zero, ← List.drop_drop, hrest, List.drop_nil]
      exact Separator.length?_nil _
  | cons c rest ih =>
      have hbehind : text.drop (position + 1) = rest := by
        rw [← List.drop_drop, hrest, List.drop_one, List.tail_cons]
      cases skip with
      | succ skip =>
          rw [Text.occurrences, Nat.add_comm skip, ← Nat.add_assoc]
          exact ih hbehind (Nat.le_of_succ_le_succ hskip)
      | zero =>
          have hpositive := List.length_pos_of_ne_nil hne
          rw [Text.occurrences]
          split
          next hstands =>
            have hhere : (Separator.mark delimiter hne).length? (text.drop position) =
                some delimiter.length := by
              rw [hrest]
              exact if_pos hstands
            have hfits := (List.isPrefixOf_iff_prefix.mp hstands).length_le
            rw [List.length_cons] at hfits
            have hcovered : delimiter.length - 1 ≤ rest.length := by omega
            have hmore := ih hbehind hcovered
            rw [show position + 1 + (delimiter.length - 1) = position + delimiter.length by omega]
              at hmore
            exact .next (Nat.le_refl _) (by omega) hhere hmore
          next hstands =>
            have hnone : (Separator.mark delimiter hne).length? (text.drop position) = none := by
              rw [hrest]
              exact if_neg hstands
            exact (ih hbehind (Nat.zero_le _)).pass hnone

namespace Search

variable {text : Array Char} {expr : Expr} {separator : Separator}

/-- At each position, the pattern prefers to match what the separator takes there. -/
def Prefers (expr : Expr) (separator : Separator) : Prop :=
  ∀ (text : Array Char) (position : Nat), preferred text expr position =
    (separator.length? (text.toList.drop position)).map (position + ·)

theorem exists_matchAt {position stop : Nat}
    (hpreferred : preferred text expr position = some stop) :
    ∃ found, matchAt text expr position = some found ∧ found.span = ⟨position, stop⟩ := by
  obtain ⟨way, hway, rfl⟩ := Option.map_eq_some_iff.mp hpreferred
  exact ⟨⟨⟨position, way.stop⟩, way.groups⟩, by rw [matchAt, hway]; rfl, rfl⟩

/-- The search for a pattern finds what separates the text. -/
theorem tiles_of_separated (hflat : expr.flat = true) (hprefers : Prefers expr separator)
    {position : Nat} {spans : List Span}
    (hseparated : Separated separator text.toList position spans) :
    ∃ found, Tiles text expr position found ∧ found.map (·.span) = spans := by
  have hnothing : ∀ place, separator.length? (text.toList.drop place) = none →
      preferred text expr place = none := by
    intro place hnone
    rw [hprefers, hnone]
    rfl
  induction hseparated with
  | done hnone =>
      refine ⟨[], .done ?_, rfl⟩
      rw [find?_eq hflat, List.findSome?_eq_none_iff]
      intro place hplace
      obtain ⟨hleast, _⟩ := List.mem_range'_1.mp hplace
      exact matchAt_eq_none_iff.mpr (hnothing place (hnone place hleast))
  | @next position start length spans hstart hbefore hhere _ ih =>
      obtain ⟨passed, rfl⟩ := Nat.exists_eq_add_of_le hstart
      obtain ⟨hpositive, hfits⟩ := Separated.stop_le hhere
      rw [Array.length_toList] at hfits
      have hpreferred : preferred text expr (position + passed) =
          some (position + passed + length) := by
        rw [hprefers, hhere]
        rfl
      obtain ⟨found, hfound, hspan⟩ := exists_matchAt hpreferred
      obtain ⟨others, htiles, rfl⟩ := ih
      have hnext : find? text expr position = some found := by
        rw [find?_add hflat fun place hleast hmost => hnothing place (hbefore place hleast hmost)]
        exact find?_of_matchAt hflat (by omega) hfound
      refine ⟨found :: others, .next hnext ?_ ?_ ?_, by rw [List.map_cons, hspan]⟩
      · rw [hspan]
        exact hstart
      · rw [hspan]
        exact Nat.lt_add_of_pos_right hpositive
      · rw [hspan]
        exact htiles

end Search

/-! ## Pieces -/

/-- The pieces that a text is cut into: what stands before the leftmost separator, and then the
pieces of what stands behind it. -/
inductive CutBy (separator : Separator) : List Char → List (List Char) → Prop
  | last {piece : List Char} (hnone : ∀ count, separator.length? (piece.drop count) = none) :
      CutBy separator piece [piece]
  | next {piece taken rest : List Char} {pieces : List (List Char)}
      (hbefore : ∀ count < piece.length,
        separator.length? ((piece ++ (taken ++ rest)).drop count) = none)
      (hhere : separator.length? (taken ++ rest) = some taken.length)
      (hrest : CutBy separator rest pieces) :
      CutBy separator (piece ++ (taken ++ rest)) (piece :: pieces)

theorem Separated.cutBy {separator : Separator} {text : List Char} {position : Nat}
    {spans : List Span} (hseparated : Separated separator text position spans) :
    CutBy separator (text.drop position)
      ((Span.gaps position text.length spans).map (·.slice text)) := by
  induction hseparated with
  | @done position hnone =>
      have hslice : Span.slice text ⟨position, text.length⟩ = text.drop position := by
        rw [Span.slice, ← List.length_drop, List.take_length]
      rw [Span.gaps, List.map_singleton, hslice]
      refine .last fun count => ?_
      rw [List.drop_drop]
      exact hnone _ (Nat.le_add_right _ _)
  | @next position start length spans hstart hbefore hhere _ ih =>
      obtain ⟨passed, rfl⟩ := Nat.exists_eq_add_of_le hstart
      obtain ⟨_, hfits⟩ := Separated.stop_le hhere
      have hafter : Span.slice text ⟨position + passed, position + passed + length⟩ ++ _ = _ :=
        Span.slice_append_drop (Nat.le_add_right _ _)
      have hwhole : Span.slice text ⟨position, position + passed⟩ ++ _ = _ :=
        Span.slice_append_drop (Nat.le_add_right _ _)
      have htaken : (Span.slice text ⟨position + passed, position + passed + length⟩).length =
          length := by
        rw [Span.length_slice ⟨Nat.zero_le _, Nat.le_add_right _ _, hfits⟩, Nat.add_sub_cancel_left]
      have hpiece : (Span.slice text ⟨position, position + passed⟩).length = passed := by
        rw [Span.length_slice ⟨Nat.zero_le _, Nat.le_add_right _ _, by simp only; omega⟩,
          Nat.add_sub_cancel_left]
      rw [Span.gaps, List.map_cons, ← hwhole, ← hafter]
      refine .next (fun count hcount => ?_) ?_ ih
      · rw [hafter, hwhole, List.drop_drop]
        rw [hpiece] at hcount
        exact hbefore _ (Nat.le_add_right _ _) (by omega)
      · rw [hafter, htaken]
        exact hhere

theorem exists_cutBy (separator : Separator) (text : List Char) :
    ∃ pieces, CutBy separator text pieces := by
  obtain ⟨spans, hspans⟩ := exists_separated separator text (Nat.zero_le _)
  exact ⟨_, hspans.cutBy⟩

/-- There is only one way to cut a text into pieces. -/
theorem CutBy.unique {separator : Separator} {text : List Char} {pieces others : List (List Char)}
    (hfirst : CutBy separator text pieces) (hsecond : CutBy separator text others) :
    pieces = others := by
  induction hfirst generalizing others with
  | @last piece hnone =>
      cases hsecond with
      | last => rfl
      | @next before _ _ _ _ hthere =>
          have hbehind := hnone before.length
          rw [List.drop_left, hthere] at hbehind
          simp at hbehind
  | @next piece taken rest pieces hbefore hhere _ ih =>
      generalize htext : piece ++ (taken ++ rest) = text at hsecond hbefore
      have hdrop : text.drop piece.length = taken ++ rest := by rw [← htext, List.drop_left]
      cases hsecond with
      | last hnone =>
          rw [← hdrop, hnone] at hhere
          simp at hhere
      | @next before removed behind more hahead hthere hmore =>
          have hother : (before ++ (removed ++ behind)).drop before.length = removed ++ behind :=
            List.drop_left
          have hlength : piece.length = before.length := by
            rcases Nat.lt_trichotomy piece.length before.length with hlt | heq | hlt
            · rw [← hdrop, hahead _ hlt] at hhere
              simp at hhere
            · exact heq
            · rw [← hother, hbefore _ hlt] at hthere
              simp at hthere
          obtain ⟨rfl, hrest⟩ := List.append_inj htext hlength
          rw [hrest, hthere] at hhere
          obtain ⟨_, rfl⟩ := List.append_inj hrest (Option.some.inj hhere).symm
          rw [ih hmore]

/-! ## Tokenizers -/

/-- The tokenizer selects what stands between the separators of a text. -/
def Tokenizer.CutsAt (tokenizer : Tokenizer) (separator : Separator) : Prop :=
  ∀ text : List Char, ∃ spans, Separated separator text 0 spans ∧
    tokenizer.spans text = Span.gaps 0 text.length spans

theorem cutsAt_delimiter {delimiter : String} (hne : delimiter.toList ≠ []) :
    (Tokenizer.delimiter delimiter).CutsAt (.mark delimiter.toList hne) := by
  intro text
  have hall : text.drop 0 = text := rfl
  exact ⟨_, separated_occurrences hne hall (Nat.zero_le text.length), rfl⟩

theorem cutsAt_pattern {pattern : Pattern} {separator : Separator}
    (hflat : pattern.expr.flat = true) (hprefers : Search.Prefers pattern.expr separator) :
    (Tokenizer.separator pattern).CutsAt separator := by
  intro text
  obtain ⟨spans, hspans⟩ := exists_separated separator text (Nat.zero_le _)
  have hsearched : Separated separator text.toArray.toList 0 spans := hspans
  obtain ⟨found, htiles, rfl⟩ := Search.tiles_of_separated hflat hprefers hsearched
  exact ⟨_, hspans, by rw [Tokenizer.spans, Pattern.findAll, htiles.findAll_eq]⟩

namespace Tokenizer.CutsAt

variable {tokenizer other : Tokenizer} {separator : Separator}

/-- The tokens are the pieces that hold a character. -/
theorem tokenize_eq (hcuts : tokenizer.CutsAt separator) {command : String}
    {pieces : List (List Char)} (hpieces : CutBy separator command.toList pieces) :
    tokenizer.tokenize command = (pieces.filter (!·.isEmpty)).map String.ofList := by
  obtain ⟨spans, hspans, hselected⟩ := hcuts command.toList
  have hwithin := (tokenizer.inOrder_spans command.toList).within_of_mem
  have hcut : CutBy separator command.toList _ := hspans.cutBy
  rw [tokenize, Span.texts_eq hwithin, hselected, hcut.unique hpieces]

end Tokenizer.CutsAt

end CommandGrammar
