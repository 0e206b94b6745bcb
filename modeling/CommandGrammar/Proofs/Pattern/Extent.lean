import CommandGrammar.Proofs.Pattern.Memory
import CommandGrammar.Proofs.Text.Spans

/-! # How far matches reach

Whatever the expression, a matcher only moves forward: it hands over to what is left of the
expression at positions that are not before its own. So a match begins where the attempt began,
ends inside the text and not before it begins, and holds all groups that it remembers.
-/

namespace CommandGrammar

open Text (Span)

/-- A match inside a text, with its groups inside the match. -/
structure Match.Contained (size : Nat) (found : Match) : Prop where
  start_le_stop : found.span.start ≤ found.span.stop
  stop_le : found.span.stop ≤ size
  groups : ∀ entry ∈ found.groups, entry.2.Within found.span.start found.span.stop

theorem Match.Contained.group? {size index : Nat} {found : Match} {span : Span}
    (hfound : found.Contained size) (hgroup : found.group? index = some span) :
    span.Within found.span.start found.span.stop := by
  unfold Match.group? at hgroup
  split at hgroup
  next =>
    obtain rfl := Option.some.inj hgroup
    exact ⟨Nat.le_refl _, hfound.start_le_stop, Nat.le_refl _⟩
  next =>
    obtain ⟨entry, hentry, rfl⟩ := Option.map_eq_some_iff.mp hgroup
    exact hfound.groups entry (List.mem_of_find?_eq_some hentry)

namespace Search

variable {text : Array Char} {start position : Nat} {next : Continuation}

/-- From a position on, if the groups so far lie behind `start`, the continuation only returns
matches from `start` on that lie inside the text. -/
def Sound (text : Array Char) (start position : Nat) (next : Continuation) : Prop :=
  ∀ stop, position ≤ stop → stop ≤ text.size → ∀ groups tried found,
    (∀ entry ∈ groups, entry.2.Within start stop) → (next stop groups tried).1 = some found →
    found.span.start = start ∧ found.Contained text.size

/-- What is sound behind a matcher is sound with it. -/
def Forward (text : Array Char) (body : Matcher) : Prop :=
  ∀ {start position : Nat} {next : Continuation}, start ≤ position →
    Sound text start position next → ∀ key, Sound text start position (body key next)

theorem sound_accept (hstart : start ≤ position) : Sound text start position (accept start) := by
  intro stop hstop hsize groups tried found hgroups hfound
  obtain rfl := Option.some.inj hfound
  exact ⟨rfl, Nat.le_trans hstart hstop, hsize, hgroups⟩

theorem sound_fail : Sound text start position fail := by
  intro stop _ _ groups tried found _ hfound
  simp [fail] at hfound

theorem Sound.once (hnext : Sound text start position next) (key : Nat) :
    Sound text start position (once key next) := by
  intro stop hstop hsize groups tried found hgroups hfound
  unfold Search.once at hfound
  split at hfound
  · simp at hfound
  · exact hnext stop hstop hsize groups _ found hgroups hfound

theorem Sound.orElse {first second : Continuation} (hfirst : Sound text start position first)
    (hsecond : Sound text start position second) :
    Sound text start position (orElse first second) := by
  intro stop hstop hsize groups tried found hgroups hfound
  unfold Search.orElse at hfound
  split at hfound
  next other after hran =>
    obtain rfl := Option.some.inj hfound
    exact hfirst stop hstop hsize groups tried other hgroups (by rw [hran])
  next after hran => exact hsecond stop hstop hsize groups after found hgroups hfound

theorem Sound.prefer {more rest : Continuation} (greedy : Bool)
    (hmore : Sound text start position more) (hrest : Sound text start position rest) :
    Sound text start position (prefer greedy more rest) := by
  cases greedy with
  | true => exact hmore.orElse hrest
  | false => exact hrest.orElse hmore

/-! ## Repetitions -/

namespace Forward

variable {body : Matcher}

theorem rounds (hbody : Forward text body) (stride count : Nat) :
    Forward text (rounds body stride count) := by
  intro start position next hstart hnext
  induction count with
  | zero => exact fun _ => hnext
  | succ count ih => exact fun key => hbody hstart (ih (key + stride)) key

theorem atMost (hbody : Forward text body) (stride : Nat) (greedy : Bool) (count : Nat) :
    Forward text (atMost body stride greedy count) := by
  intro start position next hstart hnext key
  induction count generalizing key next with
  | zero => exact hnext
  | succ count ih =>
      have hend := hnext.once key
      exact (hbody hstart (ih hend _) _).prefer greedy hend

theorem oneOrMore (hbody : Forward text body) (greedy : Bool) (fuel : Nat) :
    Forward text (oneOrMore body greedy fuel) := by
  intro start position next hstart hnext key
  induction fuel with
  | zero => exact sound_fail
  | succ fuel ih => exact (hbody hstart (ih.prefer greedy hnext) _).once key

theorem optionalRounds (hbody : Forward text body) (greedy : Bool) (fuel : Nat) :
    Forward text (optionalRounds body greedy fuel) := by
  intro start position next hstart hnext key
  have hend := hnext.once key
  exact (hbody.oneOrMore greedy fuel hstart hend _).prefer greedy hend

theorem consumingRounds (hbody : Forward text body) (greedy : Bool) (fuel : Nat) :
    Forward text (consumingRounds body greedy fuel) := by
  intro start position next hstart hnext key
  induction fuel with
  | zero => exact sound_fail
  | succ fuel ih => exact ((hbody hstart ih _).prefer greedy hnext).once key

end Forward

/-! ## Expressions -/

theorem forward_literal (chars : List Char) : Forward text (matcher text (.literal chars)) := by
  intro start position next hstart hnext key stop hstop hsize groups tried found hgroups hfound
  simp only [matcher] at hfound
  split at hfound
  next hstands =>
    have hlonger := Nat.le_add_right stop chars.length
    exact hnext _ (Nat.le_trans hstop hlonger) (standsAt_le hsize hstands) groups tried found
      (fun entry hentry => (hgroups entry hentry).mono hlonger) hfound
  next => simp at hfound

theorem forward_oneOf (set : CharSet) : Forward text (matcher text (.oneOf set)) := by
  intro start position next hstart hnext key stop hstop hsize groups tried found hgroups hfound
  rw [matcher_of_asSet? rfl] at hfound
  split at hfound
  next hone =>
    exact hnext _ (Nat.le_succ_of_le hstop) (lt_size_of_oneAt hone) groups tried found
      (fun entry hentry => (hgroups entry hentry).mono (Nat.le_succ _)) hfound
  next => simp at hfound

theorem forward_assertion (condition : Assertion) :
    Forward text (matcher text (.assertion condition)) := by
  intro start position next hstart hnext key stop hstop hsize groups tried found hgroups hfound
  simp only [matcher] at hfound
  split at hfound
  · exact hnext stop hstop hsize groups tried found hgroups hfound
  · simp at hfound

theorem forward_group (index : Nat) {body : Expr} (hbody : Forward text (matcher text body)) :
    Forward text (matcher text (.group index body)) := by
  intro start position next hstart hnext key stop hstop hsize groups tried found hgroups hfound
  have hbegun := Nat.le_trans hstart hstop
  -- The body ends at a later position, so the span that is remembered there lies behind `start`.
  have hfurther : Sound text start stop fun last groups tried =>
      next last ((index, ⟨stop, last⟩) :: groups) tried := by
    intro last hlast hbound groups tried found hgroups hfound
    refine hnext last (Nat.le_trans hstop hlast) hbound _ tried found ?_ hfound
    exact List.forall_mem_cons.mpr ⟨⟨hbegun, hlast, Nat.le_refl _⟩, hgroups⟩
  exact hbody hbegun hfurther key stop (Nat.le_refl _) hsize groups tried found hgroups hfound

theorem forward_repeated {body : Expr} (hbody : Forward text (matcher text body)) (least : Nat)
    (most : Option Nat) (greedy : Bool) :
    Forward text (matcher text (.repeated body least most greedy)) := by
  intro start position next hstart hnext key
  cases most with
  | some most =>
      rw [matcher]
      exact hbody.rounds _ least hstart (hbody.atMost _ greedy _ hstart hnext _) key
  | none =>
      cases least with
      | zero =>
          rw [matcher]
          split
          · exact hbody.consumingRounds greedy _ hstart hnext key
          · exact hbody.optionalRounds greedy _ hstart hnext key
      | succ least =>
          rw [matcher]
          exact hbody.rounds _ least hstart (hbody.oneOrMore greedy _ hstart hnext _) key

theorem forward_matcher (expr : Expr) : Forward text (matcher text expr) := by
  induction expr with
  | empty => exact fun _ hnext _ => hnext
  | literal chars => exact forward_literal chars
  | oneOf set => exact forward_oneOf set
  | assertion condition => exact forward_assertion condition
  | seq first second ihFirst ihSecond =>
      intro start position next hstart hnext key
      exact ihFirst hstart (ihSecond hstart hnext _) key
  | either first second ihFirst ihSecond =>
      intro start position next hstart hnext key
      have hend := hnext.once key
      exact (ihFirst hstart hend _).orElse (ihSecond hstart hend _)
  | group index body ih => exact forward_group index ih
  | repeated body least most greedy ih => exact forward_repeated ih least most greedy

/-! ## Searching -/

variable {expr : Expr} {found : Match}

/-- What is found at a position begins there. -/
theorem contained_of_matcher {tried after : Tried} (hstart : start ≤ text.size)
    (hran : matcher text expr 0 (accept start) start [] tried = (some found, after)) :
    start ≤ found.span.start ∧ found.Contained text.size := by
  have haccept : Sound text start start (accept start) := sound_accept (Nat.le_refl start)
  obtain ⟨hbegins, hcontained⟩ := forward_matcher expr (Nat.le_refl start) haccept 0 start
    (Nat.le_refl start) hstart [] tried found (by simp) (by rw [hran])
  exact ⟨Nat.le_of_eq hbegins.symm, hcontained⟩

theorem contained_of_scan {more : Nat} {tried : Tried} (hmore : start + more ≤ text.size)
    (hscan : scan text expr more start tried = some found) :
    start ≤ found.span.start ∧ found.Contained text.size := by
  induction more generalizing start tried with
  | zero =>
      rw [scan] at hscan
      split at hscan
      next hran =>
        obtain rfl := Option.some.inj hscan
        exact contained_of_matcher hmore hran
      next => simp at hscan
  | succ more ih =>
      rw [scan] at hscan
      split at hscan
      next hran =>
        obtain rfl := Option.some.inj hscan
        exact contained_of_matcher (Nat.le_of_add_right_le hmore) hran
      next =>
        obtain ⟨hbegins, hcontained⟩ := ih (by omega) hscan
        exact ⟨Nat.le_of_succ_le hbegins, hcontained⟩

/-- A search finds a match that begins where the search begins or later. -/
theorem contained_of_find? (hfind : find? text expr start = some found) :
    start ≤ found.span.start ∧ found.Contained text.size := by
  unfold find? at hfind
  split at hfind
  next hstart => exact contained_of_scan (Nat.le_of_eq (Nat.add_sub_cancel' hstart)) hfind
  next => simp at hfind

end Search

end CommandGrammar
