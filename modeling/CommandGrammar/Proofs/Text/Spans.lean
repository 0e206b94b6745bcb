import CommandGrammar.Text.Span
import Mathlib.Data.List.Basic

/-! # Spans in order

Spans of a text that stand one behind the other: the gaps between them and the occurrences of a
delimiter do so as well, and the tokens that they select are the texts that they hold, without the
empty ones.
-/

namespace CommandGrammar.Text

/-- The span lies between two positions and does not end before it begins. -/
structure Span.Within (start stop : Nat) (span : Span) : Prop where
  le_start : start ≤ span.start
  start_le_stop : span.start ≤ span.stop
  stop_le : span.stop ≤ stop

theorem Span.Within.mono {start stop later : Nat} {span : Span}
    (hwithin : span.Within start stop) (hlater : stop ≤ later) : span.Within start later :=
  ⟨hwithin.le_start, hwithin.start_le_stop, Nat.le_trans hwithin.stop_le hlater⟩

/-! ## What a span holds -/

namespace Span

variable {text : List Char}

/-- A text from a position on is what a span holds and what stands behind it. -/
theorem slice_append_drop {start stop : Nat} (horder : start ≤ stop) :
    slice text ⟨start, stop⟩ ++ text.drop stop = text.drop start := by
  have hbehind : text.drop stop = (text.drop start).drop (stop - start) := by
    rw [List.drop_drop, Nat.add_sub_cancel' horder]
  rw [slice, hbehind, List.take_append_drop]

theorem length_slice {span : Span} (hwithin : span.Within 0 text.length) :
    (span.slice text).length = span.stop - span.start := by
  have hstop := hwithin.stop_le
  rw [slice, List.length_take, List.length_drop]
  omega

/-- A span that holds a character is a token. -/
theorem texts_cons {span : Span} (hlt : span.start < span.stop) (spans : List Span) :
    texts text (span :: spans) = String.ofList (span.slice text) :: texts text spans := by
  have hfull : span.isEmpty = false := decide_eq_false (Nat.not_le_of_lt hlt)
  simp only [texts, List.filter_cons, hfull, Bool.not_false, if_true, List.map_cons]

theorem isEmpty_slice {span : Span} (hwithin : span.Within 0 text.length) :
    (span.slice text).isEmpty = span.isEmpty := by
  rw [Bool.eq_iff_iff, List.isEmpty_iff_length_eq_zero, length_slice hwithin, isEmpty,
    decide_eq_true_iff, Nat.sub_eq_zero_iff_le]

theorem filter_map_slice {spans : List Span} (hwithin : ∀ span ∈ spans, span.Within 0 text.length) :
    (spans.map (·.slice text)).filter (!·.isEmpty) =
      (spans.filter (!·.isEmpty)).map (·.slice text) := by
  rw [List.filter_map]
  refine congrArg _ (List.filter_congr fun span hspan => ?_)
  rw [Function.comp_apply, isEmpty_slice (hwithin span hspan)]

/-- Inside a text, the tokens are what the spans hold, if they hold anything. -/
theorem texts_eq {spans : List Span} (hwithin : ∀ span ∈ spans, span.Within 0 text.length) :
    texts text spans =
      ((spans.map (·.slice text)).filter (!·.isEmpty)).map String.ofList := by
  rw [filter_map_slice hwithin, List.map_map]
  rfl

end Span

/-! ## Spans in order -/

/-- From a position on, the spans stand one behind the other, up to another position. -/
inductive InOrder (stop : Nat) : Nat → List Span → Prop
  | nil (start : Nat) : InOrder stop start []
  | cons {start : Nat} {span : Span} {rest : List Span} (hspan : span.Within start stop)
      (hrest : InOrder stop span.stop rest) : InOrder stop start (span :: rest)

namespace InOrder

variable {start stop : Nat} {spans : List Span}

theorem earlier {before : Nat} (horder : InOrder stop start spans) (hbefore : before ≤ start) :
    InOrder stop before spans := by
  cases horder with
  | nil => exact .nil before
  | cons hspan hrest =>
      exact .cons ⟨Nat.le_trans hbefore hspan.le_start, hspan.start_le_stop, hspan.stop_le⟩ hrest

theorem within_of_mem (horder : InOrder stop start spans) :
    ∀ span ∈ spans, span.Within start stop := by
  induction horder with
  | nil => simp
  | cons hspan _ ih =>
      refine List.forall_mem_cons.mpr ⟨hspan, fun other hother => ?_⟩
      have hlater := ih other hother
      have hbegun := Nat.le_trans hspan.le_start hspan.start_le_stop
      exact ⟨Nat.le_trans hbegun hlater.le_start, hlater.start_le_stop, hlater.stop_le⟩

theorem pairwise (horder : InOrder stop start spans) :
    spans.Pairwise fun first second => first.stop ≤ second.start := by
  induction horder with
  | nil => exact .nil
  | cons _ hrest ih =>
      exact .cons (fun other hother => (hrest.within_of_mem other hother).le_start) ih

theorem filter (horder : InOrder stop start spans) (keep : Span → Bool) :
    InOrder stop start (spans.filter keep) := by
  induction horder with
  | nil start => exact .nil start
  | cons hspan _ ih =>
      rw [List.filter_cons]
      split
      · exact .cons hspan ih
      · exact ih.earlier (Nat.le_trans hspan.le_start hspan.start_le_stop)

/-- What stands before, between and behind spans in order is in order. -/
theorem gaps (horder : InOrder stop start spans) (hbounds : start ≤ stop) :
    InOrder stop start (Span.gaps start stop spans) := by
  induction horder with
  | nil start => exact .cons ⟨Nat.le_refl _, hbounds, Nat.le_refl _⟩ (.nil _)
  | @cons start span rest hspan _ ih =>
      have hfits := Nat.le_trans hspan.start_le_stop hspan.stop_le
      exact .cons ⟨Nat.le_refl _, hspan.le_start, hfits⟩
        ((ih hspan.stop_le).earlier hspan.start_le_stop)

end InOrder

theorem inOrder_occurrences (mark : List Char) {position skip : Nat} {rest : List Char}
    (hskip : skip ≤ rest.length) :
    InOrder (position + rest.length) (position + skip) (occurrences mark position skip rest) := by
  induction rest generalizing position skip with
  | nil => exact .nil _
  | cons c rest ih =>
      have hlength : position + (c :: rest).length = position + 1 + rest.length := by
        rw [List.length_cons]
        omega
      rw [hlength]
      cases skip with
      | succ skip =>
          rw [occurrences, Nat.add_comm skip, ← Nat.add_assoc]
          exact ih (Nat.le_of_succ_le_succ hskip)
      | zero =>
          rw [occurrences]
          split
          next hstands =>
            have hfits := (List.isPrefixOf_iff_prefix.mp hstands).length_le
            rw [List.length_cons] at hfits
            have hspan : Span.Within position (position + 1 + rest.length)
                ⟨position, position + mark.length⟩ :=
              ⟨Nat.le_refl _, Nat.le_add_right _ _, by simp only; omega⟩
            exact .cons hspan ((ih (by omega)).earlier (by simp only; omega))
          next => exact (ih (Nat.zero_le _)).earlier (Nat.le_succ _)

end CommandGrammar.Text
