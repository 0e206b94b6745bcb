import CommandGrammar.Proofs.Tokens.Separators
import Mathlib.Data.List.Infix

/-! # Cutting at a delimiter

The pieces between the leftmost occurrences of a delimiter hold no occurrence of it, and joined with
it they are the text again. A delimiter may overlap itself: what decides where a piece ends is the
piece with the delimiter behind it, whatever follows. So the pieces that hold a character can be
joined again without those that do not, and cutting that text yields the same pieces.
-/

namespace CommandGrammar

/-- The text falls into these pieces at the leftmost occurrences of a delimiter, none of which
overlaps the one before it. -/
inductive SplitAt (delimiter : List Char) : List Char → List (List Char) → Prop
  | last {piece : List Char} (hfree : ¬ delimiter <:+: piece) : SplitAt delimiter piece [piece]
  | next {piece rest : List Char} {pieces : List (List Char)}
      (hleftmost : ∀ count < piece.length,
        ¬ delimiter <+: (piece ++ (delimiter ++ rest)).drop count)
      (hrest : SplitAt delimiter rest pieces) :
      SplitAt delimiter (piece ++ (delimiter ++ rest)) (piece :: pieces)

section Pieces

variable {delimiter text piece rest : List Char} {pieces : List (List Char)}

theorem infix_iff_exists_drop : delimiter <:+: text ↔ ∃ count, delimiter <+: text.drop count := by
  constructor
  · rintro ⟨before, behind, rfl⟩
    refine ⟨before.length, ?_⟩
    rw [List.append_assoc, List.drop_left]
    exact List.prefix_append _ _
  · rintro ⟨count, hprefix⟩
    exact hprefix.isInfix.trans (List.drop_suffix count text).isInfix

/-! ## The separator of a delimiter -/

namespace Separator

variable {hne : delimiter ≠ []}

theorem length?_mark_eq_none_iff :
    (mark delimiter hne).length? rest = none ↔ ¬ delimiter <+: rest := by
  rw [length?_mark, ← List.isPrefixOf_iff_prefix]
  simp

theorem length?_mark_append (delimiter rest : List Char) (hne : delimiter ≠ []) :
    (mark delimiter hne).length? (delimiter ++ rest) = some delimiter.length :=
  if_pos (List.isPrefixOf_iff_prefix.mpr (List.prefix_append _ _))

/-- What a delimiter takes is the delimiter. -/
theorem eq_of_length?_mark {taken : List Char}
    (hhere : (mark delimiter hne).length? (taken ++ rest) = some taken.length) :
    taken = delimiter := by
  have hstands : delimiter <+: taken ++ rest := by
    by_contra hnone
    rw [length?_mark_eq_none_iff.mpr hnone] at hhere
    simp at hhere
  obtain ⟨behind, hsplit⟩ := hstands
  rw [← hsplit, length?_mark_append] at hhere
  exact (List.append_inj hsplit (Option.some.inj hhere)).1.symm

end Separator

theorem cutBy_mark_iff (hne : delimiter ≠ []) :
    CutBy (.mark delimiter hne) text pieces ↔ SplitAt delimiter text pieces := by
  constructor
  · intro hcut
    induction hcut with
    | last hnone =>
        refine .last fun hinfix => ?_
        obtain ⟨count, hprefix⟩ := infix_iff_exists_drop.mp hinfix
        exact Separator.length?_mark_eq_none_iff.mp (hnone count) hprefix
    | next hbefore hhere _ ih =>
        obtain rfl := Separator.eq_of_length?_mark hhere
        exact .next (fun count hcount =>
          Separator.length?_mark_eq_none_iff.mp (hbefore count hcount)) ih
  · intro hsplit
    induction hsplit with
    | last hfree =>
        refine .last fun count => Separator.length?_mark_eq_none_iff.mpr fun hprefix => hfree ?_
        exact infix_iff_exists_drop.mpr ⟨count, hprefix⟩
    | next hleftmost _ ih =>
        exact .next (fun count hcount =>
          Separator.length?_mark_eq_none_iff.mpr (hleftmost count hcount))
          (Separator.length?_mark_append _ _ _) ih

/-! ## Where a piece ends -/

/-- In the piece with the delimiter behind it, the delimiter occurs only behind the piece. -/
def Closed (delimiter piece : List Char) : Prop :=
  ∀ count < piece.length, ¬ delimiter <+: (piece ++ delimiter).drop count

/-- What follows the delimiter has no say in where it occurs first. -/
theorem closed_iff (delimiter piece rest : List Char) :
    Closed delimiter piece ↔
      ∀ count < piece.length, ¬ delimiter <+: (piece ++ (delimiter ++ rest)).drop count := by
  refine forall₂_congr fun count hcount => not_congr ?_
  have hcovered : count ≤ (piece ++ delimiter).length := by
    rw [List.length_append]
    omega
  rw [← List.append_assoc, List.drop_append_of_le_length hcovered]
  -- The occurrence is no longer than what is left of the piece and the delimiter.
  have hlength : delimiter.length ≤ ((piece ++ delimiter).drop count).length := by
    rw [List.length_drop, List.length_append]
    omega
  exact ⟨fun hprefix => hprefix.trans (List.prefix_append _ _),
    fun hprefix => List.prefix_of_prefix_length_le hprefix (List.prefix_append _ _) hlength⟩

theorem Closed.not_infix (hclosed : Closed delimiter piece) (hne : delimiter ≠ []) :
    ¬ delimiter <:+: piece := by
  rw [infix_iff_exists_drop]
  rintro ⟨count, hprefix⟩
  by_cases hcount : count < piece.length
  · refine hclosed count hcount ?_
    rw [List.drop_append_of_le_length hcount.le]
    exact hprefix.trans (List.prefix_append _ _)
  · rw [List.drop_eq_nil_of_le (Nat.le_of_not_lt hcount)] at hprefix
    exact hne (List.prefix_nil.mp hprefix)

/-! ## All pieces -/

namespace SplitAt

theorem ne_nil (hsplit : SplitAt delimiter text pieces) : pieces ≠ [] := by
  cases hsplit <;> simp

theorem not_infix (hsplit : SplitAt delimiter text pieces) (hne : delimiter ≠ []) :
    ∀ piece ∈ pieces, ¬ delimiter <:+: piece := by
  induction hsplit with
  | last hfree => simpa using hfree
  | @next piece rest pieces hleftmost _ ih =>
      have hclosed := (closed_iff delimiter piece rest).mpr hleftmost
      exact List.forall_mem_cons.mpr ⟨hclosed.not_infix hne, ih⟩

/-- Joined with the delimiter, the pieces are the text. -/
theorem intercalate_eq (hsplit : SplitAt delimiter text pieces) :
    delimiter.intercalate pieces = text := by
  induction hsplit with
  | last => exact List.intercalate_singleton
  | next _ hrest ih =>
      rw [List.intercalate_cons_of_ne_nil hrest.ne_nil, ih, List.append_assoc]

/-- Joined with the delimiter, the pieces that hold a character are pieces again. -/
theorem filter (hsplit : SplitAt delimiter text pieces) (hne : delimiter ≠ [])
    (hsome : pieces.filter (!·.isEmpty) ≠ []) :
    SplitAt delimiter (delimiter.intercalate (pieces.filter (!·.isEmpty)))
      (pieces.filter (!·.isEmpty)) := by
  induction hsplit with
  | @last piece hfree =>
      have hkept : [piece].filter (!·.isEmpty) = [piece] := by
        cases piece with
        | nil => simp at hsome
        | cons => rfl
      rw [hkept, List.intercalate_singleton]
      exact .last hfree
  | @next piece rest pieces hleftmost _ ih =>
      cases piece with
      | nil => exact ih hsome
      | cons c more =>
          have hclosed := (closed_iff delimiter (c :: more) rest).mpr hleftmost
          rw [List.filter_cons_of_pos (by simp)]
          by_cases hlast : pieces.filter (!·.isEmpty) = []
          · rw [hlast, List.intercalate_singleton]
            exact .last (hclosed.not_infix hne)
          · rw [List.intercalate_cons_of_ne_nil hlast, List.append_assoc]
            exact .next ((closed_iff _ _ _).mp hclosed) (ih hlast)

/-- Splitting the pieces that hold a character, joined with the delimiter, comes to the same. -/
theorem filter_rejoined {others : List (List Char)} (hsplit : SplitAt delimiter text pieces)
    (hne : delimiter ≠ [])
    (hagain : SplitAt delimiter (delimiter.intercalate (pieces.filter (!·.isEmpty))) others) :
    others.filter (!·.isEmpty) = pieces.filter (!·.isEmpty) := by
  have hcut := (cutBy_mark_iff hne).mpr hagain
  by_cases hsome : pieces.filter (!·.isEmpty) = []
  · -- Nothing is left to join, so the only piece is empty.
    rw [hsome, List.intercalate_nil] at hcut
    have hempty : SplitAt delimiter [] [[]] := .last fun hinfix => hne (List.infix_nil.mp hinfix)
    rw [hsome, hcut.unique ((cutBy_mark_iff hne).mpr hempty)]
    rfl
  · rw [hcut.unique ((cutBy_mark_iff hne).mpr (hsplit.filter hne hsome)), List.filter_filter]
    simp

end SplitAt

end Pieces

/-! ## The tokenizer -/

namespace Tokenizer

/-- The tokens of a delimiter are the pieces that hold a character. -/
theorem tokenize_delimiter {delimiter command : String} {pieces : List (List Char)}
    (hne : delimiter.toList ≠ []) (hsplit : SplitAt delimiter.toList command.toList pieces) :
    (Tokenizer.delimiter delimiter).tokenize command =
      (pieces.filter (!·.isEmpty)).map String.ofList :=
  (cutsAt_delimiter hne).tokenize_eq ((cutBy_mark_iff hne).mpr hsplit)

theorem makeWith_literal {delimiter : String} (hne : delimiter ≠ "")
    (compiler : Pattern.Compiler) (cache : PatternCache) :
    makeWith compiler cache .literal delimiter = (.ok (.delimiter delimiter), cache) := by
  rw [makeWith, if_neg (by rwa [String.isEmpty_iff])]

/-- A delimiter cuts every command into the pieces between its leftmost occurrences. The tokens are
those of them that hold a character, none of them holds the delimiter, and cutting the tokens joined
with the delimiter yields the same tokens. -/
theorem make_literal_canonical (cache : PatternCache) {delimiter : String}
    (hdelimiter : delimiter ≠ "") :
    ∃ tokenizer, (make cache .literal delimiter).1 = .ok tokenizer ∧
      ∀ command : String,
        (∀ token ∈ tokenizer.tokenize command,
          token ≠ "" ∧ ¬ delimiter.toList <:+: token.toList) ∧
        (∃ pieces, SplitAt delimiter.toList command.toList pieces ∧
          (∀ others, SplitAt delimiter.toList command.toList others → others = pieces) ∧
          delimiter.toList.intercalate pieces = command.toList ∧
          tokenizer.tokenize command = (pieces.filter (!·.isEmpty)).map String.ofList) ∧
        tokenizer.tokenize (delimiter.intercalate (tokenizer.tokenize command)) =
          tokenizer.tokenize command := by
  have hne : delimiter.toList ≠ [] := fun hnil => hdelimiter (String.toList_eq_nil_iff.mp hnil)
  refine ⟨_, congrArg Prod.fst (makeWith_literal hdelimiter _ cache), fun command => ?_⟩
  obtain ⟨pieces, hcut⟩ := exists_cutBy (.mark delimiter.toList hne) command.toList
  have hsplit := (cutBy_mark_iff hne).mp hcut
  have htokens := tokenize_delimiter hne hsplit
  refine ⟨fun token htoken => ?_, ⟨pieces, hsplit, fun others hothers => ?_, ?_, htokens⟩, ?_⟩
  · rw [htokens] at htoken
    obtain ⟨piece, hpiece, rfl⟩ := List.mem_map.mp htoken
    obtain ⟨hmem, hfull⟩ := List.mem_filter.mp hpiece
    rw [String.toList_ofList]
    refine ⟨fun hempty => ?_, hsplit.not_infix hne piece hmem⟩
    rw [String.ofList_eq_empty_iff] at hempty
    simp [hempty] at hfull
  · exact ((cutBy_mark_iff hne).mpr hothers).unique hcut
  · exact hsplit.intercalate_eq
  · obtain ⟨others, hagain⟩ := exists_cutBy (.mark delimiter.toList hne)
      (delimiter.intercalate ((Tokenizer.delimiter delimiter).tokenize command)).toList
    rw [cutBy_mark_iff] at hagain
    rw [tokenize_delimiter hne hagain, htokens]
    rw [htokens, String.toList_intercalate, List.map_map] at hagain
    have hlists : (pieces.filter (!·.isEmpty)).map (String.toList ∘ String.ofList) =
        pieces.filter (!·.isEmpty) := by simp
    rw [hlists] at hagain
    rw [hsplit.filter_rejoined hne hagain]

/-- Behind the `b` the delimiter overlaps its next occurrence. -/
theorem make_literal_canonical_overlapping :
    "aba" ≠ "" ∧
      ∃ tokenizer, (make .empty .literal "aba").1 = .ok tokenizer ∧
        tokenizer.tokenize ("aba".intercalate (tokenizer.tokenize "abaxabababay")) =
          ["x", "b", "y"] := by
  have hdelimiter : "aba" ≠ "" := by decide
  obtain ⟨tokenizer, hmade, hall⟩ := make_literal_canonical .empty hdelimiter
  obtain ⟨_, _, hagain⟩ := hall "abaxabababay"
  refine ⟨hdelimiter, tokenizer, hmade, hagain.trans ?_⟩
  have hliteral := congrArg Prod.fst (makeWith_literal hdelimiter Pattern.read? .empty)
  obtain rfl := Except.ok.inj (hliteral.symm.trans hmade)
  decide

end Tokenizer

end CommandGrammar
