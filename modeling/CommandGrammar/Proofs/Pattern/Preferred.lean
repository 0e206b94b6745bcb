import CommandGrammar.Proofs.Pattern.Memory

/-! # Where the preferred way ends

Of the ways to match at a position only the first counts. Where it ends can be read off the
expression and the characters behind the position; in a sequence, a repetition at its beginning
has as many chances as it has lengths. A search that finds one match right behind the other
returns them all.
-/

namespace CommandGrammar.Search

open Text (Span)

/-- Where the first way to match from a position ends, if there is a way. -/
def preferred (text : Array Char) (expr : Expr) (position : Nat) : Option Nat :=
  (ways text expr position).head?.map (·.stop)

variable {text : Array Char}

theorem ways_eq_nil_iff {expr : Expr} {position : Nat} :
    ways text expr position = [] ↔ preferred text expr position = none := by
  rw [preferred, Option.map_eq_none_iff, List.head?_eq_none_iff]

theorem preferred_either (first second : Expr) (position : Nat) :
    preferred text (.either first second) position =
      (preferred text first position).or (preferred text second position) := by
  rw [preferred, ways, List.head?_append, preferred, preferred]
  cases (ways text first position).head? <;> rfl

theorem preferred_seq (first second : Expr) (position : Nat) :
    preferred text (.seq first second) position =
      (ways text first position).findSome? fun way => preferred text second way.stop := by
  rw [preferred, ways, List.head?_flatMap]
  induction ways text first position with
  | nil => rfl
  | cons way rest ih =>
      rw [List.findSome?_cons, List.findSome?_cons, ← ih, List.head?_map, preferred]
      cases (ways text second way.stop).head? <;> rfl

/-- If every way to match the first expression ends at one place, the second begins there. -/
theorem preferred_seq_of_stop {first second : Expr} {position middle : Nat}
    (hne : ways text first position ≠ [])
    (hstop : ∀ way ∈ ways text first position, way.stop = middle) :
    preferred text (.seq first second) position = preferred text second middle := by
  rw [preferred_seq]
  cases hsecond : preferred text second middle with
  | none =>
      rw [List.findSome?_eq_none_iff]
      intro way hway
      rw [hstop way hway, hsecond]
  | some stop =>
      obtain ⟨way, others, hways⟩ := List.exists_cons_of_ne_nil hne
      rw [hways, List.findSome?_cons, hstop way (hways ▸ List.mem_cons_self), hsecond]

theorem preferred_group (index : Nat) (body : Expr) (position : Nat) :
    preferred text (.group index body) position = preferred text body position := by
  rw [preferred, ways, List.head?_map, Option.map_map, preferred]
  rfl

/-- A literal matches where it stands at the beginning of what is left. -/
theorem preferred_literal {chars rest : List Char} {position : Nat}
    (hrest : text.toList.drop position = rest) :
    preferred text (.literal chars) position =
      if chars.isPrefixOf rest then some (position + chars.length) else none := by
  have hstands : standsAt text chars position = chars.isPrefixOf rest := by
    rw [Bool.eq_iff_iff, standsAt_iff, hrest, List.isPrefixOf_iff_prefix]
  rw [preferred, ways, hstands]
  split <;> rfl

/-! ## Repetitions -/

section Repetitions

variable {body : Expr} {set : CharSet} {least position : Nat} {greedy : Bool}

theorem mem_lengths_iff {greatest count : Nat} :
    count ∈ lengths greedy least greatest ↔ least ≤ count ∧ count ≤ greatest := by
  unfold lengths
  split <;> simp [List.mem_range'_1] <;> omega

/-- A greedy repetition takes the whole run. -/
theorem head?_ways_greedy (hset : body.asSet? = some set) :
    (ways text (.repeated body least none true) position).head? =
      if least ≤ runLength text set position then
        some ⟨position + runLength text set position, []⟩
      else none := by
  rw [ways_repeated hset, lengths, if_pos rfl, List.head?_map, List.head?_reverse,
    List.getLast?_range']
  split
  next hzero =>
    rw [if_neg (by omega)]
    rfl
  next hzero =>
    rw [if_pos (by omega)]
    simp only [Option.map_some, Option.some.injEq, Way.mk.injEq, and_true]
    omega

theorem preferred_greedy (hset : body.asSet? = some set) :
    preferred text (.repeated body least none true) position =
      if least ≤ runLength text set position then some (position + runLength text set position)
      else none := by
  rw [preferred, head?_ways_greedy hset]
  split <;> rfl

/-- A repetition with something behind it finds an end only where that finds it from some
length. -/
theorem preferred_repeated_seq (hset : body.asSet? = some set) (second : Expr) :
    preferred text (.seq (.repeated body least none greedy) second) position =
      (lengths greedy least (runLength text set position)).findSome? fun count =>
        preferred text second (position + count) := by
  rw [preferred_seq, ways_repeated hset, List.findSome?_map]
  rfl

theorem preferred_repeated_seq_eq_none {second : Expr} (hset : body.asSet? = some set)
    (hnone : ∀ count, least ≤ count → count ≤ runLength text set position →
      preferred text second (position + count) = none) :
    preferred text (.seq (.repeated body least none greedy) second) position = none := by
  rw [preferred_repeated_seq hset, List.findSome?_eq_none_iff]
  intro count hcount
  obtain ⟨hleast, hmost⟩ := mem_lengths_iff.mp hcount
  exact hnone count hleast hmost

/-- If all lengths that find an end find the same one, that is where the preferred way ends. -/
theorem preferred_repeated_seq_or {second : Expr} {stop : Nat} (hset : body.asSet? = some set)
    (hstop : ∀ count, least ≤ count → count ≤ runLength text set position →
      preferred text second (position + count) = none ∨
        preferred text second (position + count) = some stop) :
    preferred text (.seq (.repeated body least none greedy) second) position = none ∨
      preferred text (.seq (.repeated body least none greedy) second) position = some stop := by
  rw [preferred_repeated_seq hset]
  have hall : ∀ count ∈ lengths greedy least (runLength text set position),
      preferred text second (position + count) = none ∨
        preferred text second (position + count) = some stop := by
    intro count hcount
    obtain ⟨hleast, hmost⟩ := mem_lengths_iff.mp hcount
    exact hstop count hleast hmost
  generalize lengths greedy least (runLength text set position) = counts at hall ⊢
  induction counts with
  | nil => exact .inl rfl
  | cons count rest ih =>
      obtain ⟨hcount, hrest⟩ := List.forall_mem_cons.mp hall
      rcases hcount with hnone | hsome
      · simpa [hnone] using ih hrest
      · exact .inr (by simp [hsome])

theorem preferred_repeated_seq_eq_some {second : Expr} {stop : Nat} (hset : body.asSet? = some set)
    (hstop : ∀ count, least ≤ count → count ≤ runLength text set position →
      preferred text second (position + count) = none ∨
        preferred text second (position + count) = some stop)
    {count : Nat} (hleast : least ≤ count) (hmost : count ≤ runLength text set position)
    (hcount : preferred text second (position + count) = some stop) :
    preferred text (.seq (.repeated body least none greedy) second) position = some stop := by
  have hor : preferred text (.seq (.repeated body least none greedy) second) position = none ∨
      preferred text (.seq (.repeated body least none greedy) second) position = some stop :=
    preferred_repeated_seq_or hset hstop
  rcases hor with hnone | hsome
  · rw [preferred_repeated_seq hset, List.findSome?_eq_none_iff] at hnone
    rw [hnone count (mem_lengths_iff.mpr ⟨hleast, hmost⟩)] at hcount
    simp at hcount
  · exact hsome

/-- What follows a greedy repetition is tried behind the whole run first. -/
theorem preferred_greedy_seq_eq_some {second : Expr} {stop : Nat} (hset : body.asSet? = some set)
    (hleast : least ≤ runLength text set position)
    (hsecond : preferred text second (position + runLength text set position) = some stop) :
    preferred text (.seq (.repeated body least none true) second) position = some stop := by
  have hhead : (ways text (.repeated body least none true) position).head? =
      some ⟨position + runLength text set position, []⟩ := by
    rw [head?_ways_greedy hset, if_pos hleast]
  obtain ⟨others, hways⟩ := List.head?_eq_some_iff.mp hhead
  rw [preferred_seq, hways, List.findSome?_cons, hsecond]

theorem runLength_eq {rest : List Char} (hrest : text.toList.drop position = rest) :
    runLength text set position = (rest.takeWhile set.contains).length := by
  rw [runLength, hrest]

end Repetitions

/-! ## How far a way goes -/

section Advances

variable {expr : Expr} {position : Nat}

theorem runLength_le (text : Array Char) (set : CharSet) (position : Nat) :
    runLength text set position ≤ text.size - position := by
  rw [runLength, ← Array.length_toList, ← List.length_drop]
  exact (List.takeWhile_prefix _).length_le

/-- A way ends inside the text and not before it begins. If every match of the expression holds a
character, it ends behind its beginning. -/
structure Advances (text : Array Char) (expr : Expr) (position : Nat) (way : Way) : Prop where
  le_stop : position ≤ way.stop
  lt_stop : expr.consumes = true → position < way.stop
  stop_le : position ≤ text.size → way.stop ≤ text.size

theorem advances (hflat : expr.flat = true) :
    ∀ way ∈ ways text expr position, Advances text expr position way := by
  induction expr generalizing position with
  | empty =>
      intro way hway
      obtain rfl := List.mem_singleton.mp hway
      exact ⟨Nat.le_refl _, by simp [Expr.consumes], id⟩
  | literal chars =>
      intro way hway
      obtain ⟨hstands, rfl⟩ := mem_ways_literal_iff.mp hway
      have hlength := hstands.length_le
      rw [List.length_drop, show text.toList.length = text.size from rfl] at hlength
      refine ⟨Nat.le_add_right _ _, fun hconsumes => ?_, fun hposition => ?_⟩
      · have hne : chars ≠ [] := by simpa [Expr.consumes] using hconsumes
        have := List.length_pos_iff.mpr hne
        simp only
        omega
      · simp only
        omega
  | oneOf set =>
      intro way hway
      rw [ways] at hway
      split at hway
      next hone =>
        obtain rfl := List.mem_singleton.mp hway
        exact ⟨Nat.le_succ _, fun _ => Nat.lt_succ_self _, fun _ => lt_size_of_oneAt hone⟩
      next => simp at hway
  | assertion condition =>
      intro way hway
      rw [ways] at hway
      split at hway
      next =>
        obtain rfl := List.mem_singleton.mp hway
        exact ⟨Nat.le_refl _, by simp [Expr.consumes], id⟩
      next => simp at hway
  | seq first second ihFirst ihSecond =>
      intro way hway
      rw [Expr.flat, Bool.and_eq_true] at hflat
      rw [ways] at hway
      obtain ⟨before, hbefore, hway⟩ := List.mem_flatMap.mp hway
      obtain ⟨further, hfurther, rfl⟩ := List.mem_map.mp hway
      have hfirst := ihFirst hflat.1 before hbefore
      have hsecond := ihSecond hflat.2 further hfurther
      refine ⟨Nat.le_trans hfirst.le_stop hsecond.le_stop, fun hconsumes => ?_, fun hposition =>
        hsecond.stop_le (hfirst.stop_le hposition)⟩
      rcases Bool.or_eq_true_iff.mp hconsumes with hconsumes | hconsumes
      · exact Nat.lt_of_lt_of_le (hfirst.lt_stop hconsumes) hsecond.le_stop
      · exact Nat.lt_of_le_of_lt hfirst.le_stop (hsecond.lt_stop hconsumes)
  | either first second ihFirst ihSecond =>
      intro way hway
      rw [Expr.flat, Bool.and_eq_true] at hflat
      rw [ways] at hway
      rcases List.mem_append.mp hway with hway | hway
      · have hfirst := ihFirst hflat.1 way hway
        exact ⟨hfirst.le_stop, fun hconsumes =>
          hfirst.lt_stop (Bool.and_eq_true_iff.mp hconsumes).1, hfirst.stop_le⟩
      · have hsecond := ihSecond hflat.2 way hway
        exact ⟨hsecond.le_stop, fun hconsumes =>
          hsecond.lt_stop (Bool.and_eq_true_iff.mp hconsumes).2, hsecond.stop_le⟩
  | group index body ih =>
      intro way hway
      rw [ways] at hway
      obtain ⟨inner, hinner, rfl⟩ := List.mem_map.mp hway
      have hbody := ih hflat inner hinner
      exact ⟨hbody.le_stop, hbody.lt_stop, hbody.stop_le⟩
  | repeated body least most greedy =>
      intro way hway
      rw [Expr.flat, Bool.and_eq_true, Bool.and_eq_true] at hflat
      obtain ⟨set, hset⟩ := Option.isSome_iff_exists.mp hflat.1.1
      rw [ways_repeated hset] at hway
      obtain ⟨count, hcount, rfl⟩ := List.mem_map.mp hway
      obtain ⟨hleast, hmost⟩ := mem_lengths_iff.mp hcount
      have hrun := runLength_le text set position
      refine ⟨Nat.le_add_right _ _, fun hconsumes => ?_, fun hposition => ?_⟩
      · have hpositive : 0 < least :=
          of_decide_eq_true (Bool.and_eq_true_iff.mp hconsumes).1
        simp only
        omega
      · simp only
        omega

theorem exists_way_of_preferred {stop : Nat}
    (hpreferred : preferred text expr position = some stop) :
    ∃ way ∈ ways text expr position, way.stop = stop := by
  obtain ⟨way, hway, rfl⟩ := Option.map_eq_some_iff.mp hpreferred
  exact ⟨way, List.mem_of_head? hway, rfl⟩

end Advances

/-! ## One match behind the other -/

variable {expr : Expr}

theorem matchAt_eq_none_iff {position : Nat} :
    matchAt text expr position = none ↔ preferred text expr position = none := by
  rw [matchAt, preferred, Option.map_eq_none_iff, Option.map_eq_none_iff]

/-- From a position on, the matches are found in their order, none of them is empty, and no other
is left. -/
inductive Tiles (text : Array Char) (expr : Expr) : Nat → List Match → Prop
  | done {start : Nat} (hnone : find? text expr start = none) : Tiles text expr start []
  | next {start : Nat} {found : Match} {rest : List Match}
      (hfound : find? text expr start = some found) (hstart : start ≤ found.span.start)
      (hstop : found.span.start < found.span.stop) (hrest : Tiles text expr found.span.stop rest) :
      Tiles text expr start (found :: rest)

theorem Tiles.length_le {start : Nat} {found : List Match} (htiles : Tiles text expr start found) :
    found.length ≤ text.size + 1 - start := by
  induction htiles with
  | done => exact Nat.zero_le _
  | @next start found rest hfound hstart hstop hrest ih =>
      have hbound : start ≤ text.size := by
        unfold find? at hfound
        split at hfound
        · assumption
        · simp at hfound
      rw [List.length_cons]
      omega

theorem Tiles.findAllWithin_eq {start : Nat} {found : List Match}
    (htiles : Tiles text expr start found) {fuel : Nat} (hfuel : found.length < fuel)
    (last : Option Nat) : findAllWithin text expr fuel start last = found := by
  induction htiles generalizing fuel last with
  | done hnone =>
      cases fuel with
      | zero => simp at hfuel
      | succ fuel => simp [findAllWithin, hnone]
  | @next start found rest hfound hstart hstop hrest ih =>
      cases fuel with
      | zero => simp at hfuel
      | succ fuel =>
          -- The match is not empty, so the search goes on where it ends.
          rw [findAllWithin, hfound]
          simp only [Nat.ne_of_lt hstop, false_and, if_false]
          rw [ih (Nat.lt_of_succ_lt_succ hfuel)]

theorem Tiles.findAll_eq {found : List Match} (htiles : Tiles text expr 0 found) :
    findAll text expr = found := by
  have hlength := htiles.length_le
  exact htiles.findAllWithin_eq (by omega) none

/-- Positions where nothing matches are passed. -/
theorem find?_add (hflat : expr.flat = true) {start skipped : Nat}
    (hskipped : ∀ position, start ≤ position → position < start + skipped →
      preferred text expr position = none) :
    find? text expr start = find? text expr (start + skipped) := by
  induction skipped with
  | zero => rfl
  | succ skipped ih =>
      rw [ih fun position hleast hmost => hskipped position hleast (by omega)]
      have hnone := matchAt_eq_none_iff.mpr (hskipped (start + skipped) (by omega) (by omega))
      rw [find?_eq hflat, find?_eq hflat]
      cases hleft : text.size + 1 - (start + skipped) with
      | zero =>
          rw [show text.size + 1 - (start + (skipped + 1)) = 0 by omega]
          rfl
      | succ left =>
          rw [show text.size + 1 - (start + (skipped + 1)) = left by omega, List.range'_succ,
            List.findSome?_cons, hnone]
          rfl

theorem find?_of_matchAt (hflat : expr.flat = true) {start : Nat} {found : Match}
    (hstart : start ≤ text.size) (hfound : matchAt text expr start = some found) :
    find? text expr start = some found := by
  rw [find?_eq hflat, Nat.succ_sub hstart, List.range'_succ, List.findSome?_cons, hfound]

end CommandGrammar.Search
