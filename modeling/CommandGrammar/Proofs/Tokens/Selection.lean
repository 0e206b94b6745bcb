import CommandGrammar.Proofs.Pattern.Extent
import CommandGrammar.Tokenizer

/-! # Tokens are a selection of the command

Whatever cuts a command, its tokens are stretches of it that stand one behind the other: no token
is empty, none overlaps another, and none comes from anywhere else. Each of the three ways to cut
yields spans in order: the occurrences of a delimiter and the matches of a pattern by the order of
the search, the gaps between them because they fill what is left, and the groups because each lies
inside its match.
-/

namespace CommandGrammar

namespace Search

open Text

variable {text : Array Char} {expr : Expr}

/-- The matches of a search stand one behind the other, and so does what is picked out of each. -/
theorem inOrder_findAllWithin {pick : Match → Option Span}
    (hpick : ∀ found span, found.Contained text.size → pick found = some span →
      span.Within found.span.start found.span.stop) (fuel start : Nat) (last : Option Nat) :
    InOrder text.size start ((findAllWithin text expr fuel start last).filterMap pick) := by
  induction fuel generalizing start last with
  | zero => exact .nil start
  | succ fuel ih =>
      rw [findAllWithin]
      cases hfind : find? text expr start with
      | none => exact .nil start
      | some found =>
          obtain ⟨hstart, hfound⟩ := contained_of_find? hfind
          have hbehind := Nat.le_trans hstart hfound.start_le_stop
          dsimp only
          split
          next => exact (ih (start + 1) last).earlier (Nat.le_succ start)
          next =>
            rw [List.filterMap_cons]
            cases hpicked : pick found with
            | none => exact (ih found.span.stop _).earlier hbehind
            | some span =>
                have hspan := hpick found span hfound hpicked
                exact .cons ⟨Nat.le_trans hstart hspan.le_start, hspan.start_le_stop,
                  Nat.le_trans hspan.stop_le hfound.stop_le⟩ ((ih _ _).earlier hspan.stop_le)

end Search

namespace Tokenizer

open Text

/-- The spans of a tokenizer stand one behind the other inside the text. -/
theorem inOrder_spans (tokenizer : Tokenizer) (text : List Char) :
    InOrder text.length 0 (tokenizer.spans text) := by
  have hmatches (pattern : Pattern) (group : Nat) :
      InOrder text.length 0 ((pattern.findAll text).filterMap (·.group? group)) :=
    Search.inOrder_findAllWithin (fun found span hfound => hfound.group?) _ 0 none
  cases tokenizer with
  | delimiter mark =>
      have hmarks : InOrder (0 + text.length) 0 (occurrences mark.toList 0 0 text) :=
        inOrder_occurrences mark.toList (Nat.zero_le text.length)
      rw [Nat.zero_add] at hmarks
      exact hmarks.gaps (Nat.zero_le _)
  | separator pattern =>
      -- The whole match is group zero.
      have hspans := hmatches pattern 0
      rw [show (fun found : Match => found.group? 0) = some ∘ (·.span) from rfl,
        List.filterMap_eq_map] at hspans
      exact hspans.gaps (Nat.zero_le _)
  | extraction pattern group => exact hmatches pattern group

/-- Whatever the tokenizer and the command, the tokens are stretches of the command that hold a
character each and stand one behind the other. -/
theorem tokenize_selects (tokenizer : Tokenizer) (command : String) :
    ∃ spans : List Span,
      (∀ span ∈ spans, span.start < span.stop ∧ span.stop ≤ command.toList.length) ∧
      spans.Pairwise (fun first second => first.stop ≤ second.start) ∧
      tokenizer.tokenize command =
        spans.map fun span => String.ofList (span.slice command.toList) := by
  have horder := (tokenizer.inOrder_spans command.toList).filter (!·.isEmpty)
  refine ⟨_, fun span hspan => ⟨?_, ?_⟩, horder.pairwise, rfl⟩
  · have hfull := (List.mem_filter.mp hspan).2
    simpa [Span.isEmpty] using hfull
  · exact (horder.within_of_mem span hspan).stop_le

end Tokenizer

end CommandGrammar
