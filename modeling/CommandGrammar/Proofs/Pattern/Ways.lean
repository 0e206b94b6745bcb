import CommandGrammar.Pattern.Search

/-! # The ways to match an expression

What a search prefers can be said without what it remembers: an expression has a list of ways to
match from a position, the preferred ones first. A repetition of single characters matches every
length up to that of the longest run, a greedy one the longest first.
-/

namespace CommandGrammar

open Text (Span)

/-- Repetitions are those of single characters, without a greatest count and with at most one
required round. -/
def Expr.flat : Expr → Bool
  | .seq first second | .either first second => first.flat && second.flat
  | .group _ body => body.flat
  | .repeated body least most _ => body.asSet?.isSome && decide (least ≤ 1) && most.isNone
  | _ => true

namespace Search

/-- A way to match: the position where it ends, and the groups that it remembers, the latest
first. -/
structure Way where
  stop : Nat
  groups : List (Nat × Span) := []
deriving DecidableEq, Repr

/-- A character of the set stands at the position. -/
def oneAt (text : Array Char) (set : CharSet) (position : Nat) : Bool :=
  text[position]?.any set.contains

/-- How many characters of a set stand in a row from a position on. -/
def runLength (text : Array Char) (set : CharSet) (position : Nat) : Nat :=
  ((text.toList.drop position).takeWhile set.contains).length

/-- The numbers from the least to the greatest, the greatest first for a greedy repetition. -/
def lengths (greedy : Bool) (least greatest : Nat) : List Nat :=
  if greedy then (List.range' least (greatest + 1 - least)).reverse
  else List.range' least (greatest + 1 - least)

/-- Puts the further ways before the last one or behind it. -/
def ordered {α : Type} (greedy : Bool) (more stop : List α) : List α :=
  if greedy then more ++ stop else stop ++ more

/-- The ways to match a flat expression from a position, the preferred ones first. -/
def ways (text : Array Char) : Expr → Nat → List Way
  | .empty, position => [⟨position, []⟩]
  | .literal chars, position =>
    if standsAt text chars position then [⟨position + chars.length, []⟩] else []
  | .oneOf set, position => if oneAt text set position then [⟨position + 1, []⟩] else []
  | .assertion condition, position =>
    if condition.holds (charBefore text position) text[position]? then [⟨position, []⟩] else []
  | .seq first second, position =>
    (ways text first position).flatMap fun way =>
      (ways text second way.stop).map fun further => ⟨further.stop, further.groups ++ way.groups⟩
  | .either first second, position => ways text first position ++ ways text second position
  | .group index body, position =>
    (ways text body position).map fun way => ⟨way.stop, (index, ⟨position, way.stop⟩) :: way.groups⟩
  | .repeated body least _ greedy, position =>
    match body.asSet? with
    | some set =>
      (lengths greedy least (runLength text set position)).map fun count => ⟨position + count, []⟩
    | none => []

/-! ## Single characters -/

variable {text : Array Char}

theorem standsAt_iff (chars : List Char) (position : Nat) :
    standsAt text chars position = true ↔ chars <+: text.toList.drop position := by
  induction chars generalizing position with
  | nil => simp [standsAt]
  | cons c rest ih =>
      rw [standsAt, Bool.and_eq_true, beq_iff_eq, ih]
      by_cases hposition : position < text.size
      · have hdrop : text.toList.drop position =
            text[position] :: text.toList.drop (position + 1) := by
          rw [List.drop_eq_getElem_cons (by simpa using hposition), Array.getElem_toList]
        rw [Array.getElem?_eq_getElem hposition, Option.some.injEq, hdrop, List.cons_prefix_cons]
        exact and_congr_left fun _ => eq_comm
      · have hdrop : text.toList.drop position = [] :=
          List.drop_eq_nil_of_le (by simpa using hposition)
        simp [hposition, hdrop]

theorem mem_ways_literal_iff {chars : List Char} {position : Nat} {way : Way} :
    way ∈ ways text (.literal chars) position ↔
      chars <+: text.toList.drop position ∧ way = ⟨position + chars.length, []⟩ := by
  rw [← standsAt_iff, ways]
  split
  next hstands => simp [hstands]
  next hstands => simp [hstands]

theorem oneAt_eq (set : CharSet) (position : Nat) :
    oneAt text set position = (text.toList.drop position).head?.any set.contains := by
  rw [oneAt, List.head?_drop, Array.getElem?_toList]

theorem lt_size_of_oneAt {set : CharSet} {position : Nat}
    (hone : oneAt text set position = true) : position < text.size := by
  by_cases hposition : position < text.size
  · exact hposition
  · simp [oneAt, hposition] at hone

theorem runLength_of_oneAt {set : CharSet} {position : Nat}
    (hone : oneAt text set position = true) :
    runLength text set position = runLength text set (position + 1) + 1 := by
  have hposition := lt_size_of_oneAt hone
  have hcontains : set.contains text[position] = true := by simpa [oneAt, hposition] using hone
  rw [runLength, List.drop_eq_getElem_cons (by simpa using hposition), Array.getElem_toList,
    List.takeWhile_cons_of_pos hcontains, List.length_cons, runLength]

theorem runLength_of_not_oneAt {set : CharSet} {position : Nat}
    (hone : oneAt text set position = false) : runLength text set position = 0 := by
  rw [oneAt_eq] at hone
  rw [runLength]
  cases hdrop : text.toList.drop position with
  | nil => rfl
  | cons c rest =>
      rw [hdrop] at hone
      rw [List.takeWhile_cons_of_neg (by simpa using hone), List.length_nil]

/-! ## Repetitions -/

theorem lengths_zero_succ (greedy : Bool) (greatest : Nat) :
    lengths greedy 0 (greatest + 1) = ordered greedy (lengths greedy 1 (greatest + 1)) [0] := by
  cases greedy <;> simp [lengths, ordered, List.range'_succ]

theorem lengths_one_succ (greedy : Bool) (greatest : Nat) :
    lengths greedy 1 (greatest + 1) = (lengths greedy 0 greatest).map (· + 1) := by
  have hshift : List.range' 1 (greatest + 1) = (List.range' 0 (greatest + 1)).map (· + 1) := by
    simpa [Nat.add_comm 1] using (List.map_add_range' (a := 1) 0 (greatest + 1) 1).symm
  cases greedy <;> simp [lengths, hshift]

theorem ways_repeated {body : Expr} {set : CharSet} (hset : body.asSet? = some set) (least : Nat)
    (most : Option Nat) (greedy : Bool) (position : Nat) :
    ways text (.repeated body least most greedy) position =
      (lengths greedy least (runLength text set position)).map fun count =>
        ⟨position + count, []⟩ := by
  rw [ways, hset]

/-- A round more is a character more, followed by any number of rounds. -/
theorem ways_oneOrMore {body : Expr} {set : CharSet} (hset : body.asSet? = some set)
    (greedy : Bool) (position : Nat) :
    ways text (.repeated body 1 none greedy) position =
      if oneAt text set position then ways text (.repeated body 0 none greedy) (position + 1)
      else [] := by
  rw [ways_repeated hset, ways_repeated hset]
  by_cases hone : oneAt text set position = true
  · rw [if_pos hone, runLength_of_oneAt hone, lengths_one_succ, List.map_map]
    apply List.map_congr_left
    intro count _
    simp [Nat.add_assoc, Nat.add_comm 1]
  · rw [if_neg hone, runLength_of_not_oneAt (by simpa using hone)]
    cases greedy <;> rfl

/-- Any number of rounds is a round or more, or none. -/
theorem ways_anyNumber {body : Expr} {set : CharSet} (hset : body.asSet? = some set)
    (greedy : Bool) (position : Nat) :
    ways text (.repeated body 0 none greedy) position =
      ordered greedy (ways text (.repeated body 1 none greedy) position) [⟨position, []⟩] := by
  rw [ways_repeated hset, ways_repeated hset]
  cases runLength text set position with
  | zero => cases greedy <;> rfl
  | succ greatest =>
      rw [lengths_zero_succ]
      cases greedy <;> simp [ordered]

end Search

end CommandGrammar
