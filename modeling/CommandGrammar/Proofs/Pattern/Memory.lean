import CommandGrammar.Proofs.Pattern.Ways

/-! # What a search remembers does not change what it finds

A key is passed at most once at each position. That loses no match: a key that was passed before
either has failed there, and would fail again, or it cannot be reached any more. The keys of an
expression and of what is left behind it are different, and only a repetition comes back to a key
of its own, one character further on.
-/

namespace CommandGrammar.Search

open Text (Span)

/-- At a position, a key of an expression leads to no match, where `fails` says at which positions
nothing matches behind the expression. -/
def Stuck (text : Array Char) : Expr → Nat → (Nat → Prop) → Nat → Nat → Prop
  | .seq first second, base, fails, key, position =>
    if key < base + keyCount first then
      Stuck text first base (fun stop => ∀ way ∈ ways text second stop, fails way.stop) key position
    else Stuck text second (base + keyCount first) fails key position
  | .either first second, base, fails, key, position =>
    if key = base then fails position
    else if key < base + 1 + keyCount first then Stuck text first (base + 1) fails key position
    else Stuck text second (base + 1 + keyCount first) fails key position
  | .group _ body, base, fails, key, position => Stuck text body base fails key position
  | .repeated body least most greedy, _, fails, _, position =>
    ∀ way ∈ ways text (.repeated body least most greedy) position, fails way.stop
  | _, _, _, _, _ => False

/-- Whatever was tried at the given keys and positions leads to no match. -/
def Spent (dead reach : Nat → Nat → Prop) (tried : Tried) : Prop :=
  ∀ key place, reach key place → tried.contains (key, place) = true → dead key place

/-- From a position on, a continuation that passes only the given keys at the given positions
returns what `out` says, unless something was tried there that leads to a match; and when it gives
up, all that it has tried leads to no match. -/
def Decides (dead reach : Nat → Nat → Prop) (next : Continuation)
    (out : List (Nat × Span) → Option Match) (position : Nat) : Prop :=
  ∀ groups tried, Spent dead reach tried →
    (next position groups tried).1 = out groups ∧
      (out groups = none → ∀ key place,
        (next position groups tried).2.contains (key, place) = true →
          tried.contains (key, place) = true ∨ dead key place)

/-- The given keys from a position on. -/
def From (keys : Nat → Prop) (position : Nat) : Nat → Nat → Prop :=
  fun key place => keys key ∧ position ≤ place

/-- The given keys from a position on, and one more key only behind that position. -/
def Later (keys : Nat → Prop) (key position : Nat) : Nat → Nat → Prop :=
  fun other place => (keys other ∧ position ≤ place) ∨ (other = key ∧ position < place)

section Combinators

variable {dead reach : Nat → Nat → Prop} {position : Nat} {next : Continuation}
  {out : List (Nat × Span) → Option Match}

theorem Spent.mono {more : Nat → Nat → Prop} {tried : Tried} (hspent : Spent dead more tried)
    (hreach : ∀ key place, reach key place → more key place) : Spent dead reach tried :=
  fun key place hkey => hspent key place (hreach key place hkey)

/-- What was added in vain makes no difference. -/
theorem Spent.of_failed {tried more : Tried} (hspent : Spent dead reach tried)
    (hfailed : ∀ key place, more.contains (key, place) = true →
      tried.contains (key, place) = true ∨ dead key place) : Spent dead reach more := by
  intro key place hreach hmore
  rcases hfailed key place hmore with htried | hdead
  · exact hspent key place hreach htried
  · exact hdead

theorem contains_insert_iff {tried : Tried} {key place other where' : Nat} :
    (tried.insert (key, place)).contains (other, where') = true ↔
      (key = other ∧ place = where') ∨ tried.contains (other, where') = true := by
  rw [Std.HashSet.contains_insert, Bool.or_eq_true, beq_iff_eq, Prod.mk.injEq]

theorem Decides.mono {more : Nat → Nat → Prop} (hdecides : Decides dead reach next out position)
    (hreach : ∀ key place, reach key place → more key place) :
    Decides dead more next out position :=
  fun groups tried hspent => hdecides groups tried (hspent.mono hreach)

/-- Passing a key first changes nothing, if the key is not passed there again and leads to no match
exactly where nothing else does. -/
theorem decides_once {key : Nat} (hnext : Decides dead reach next out position)
    (hfresh : ¬ reach key position) (hdead : ∀ groups, dead key position ↔ out groups = none) :
    Decides dead (fun other place => (other = key ∧ place = position) ∨ reach other place)
      (once key next) out position := by
  intro groups tried hspent
  unfold once
  split
  next htried =>
    -- The key was passed here before, so it is spent, and giving up is right.
    have hnone := (hdead groups).mp (hspent key position (.inl ⟨rfl, rfl⟩) htried)
    exact ⟨hnone.symm, fun _ _ _ hafter => .inl hafter⟩
  next =>
    have hready : Spent dead reach (tried.insert (key, position)) := by
      intro other place hreach hcontains
      rcases contains_insert_iff.mp hcontains with ⟨rfl, rfl⟩ | htried
      · exact absurd hreach hfresh
      · exact hspent other place (.inr hreach) htried
    obtain ⟨hresult, hfailed⟩ := hnext groups _ hready
    refine ⟨hresult, fun hnone other place hafter => ?_⟩
    rcases hfailed hnone other place hafter with hinserted | hother
    · rcases contains_insert_iff.mp hinserted with ⟨rfl, rfl⟩ | htried
      · exact .inr ((hdead groups).mpr hnone)
      · exact .inl htried
    · exact .inr hother

theorem Later.of_next {keys : Nat → Prop} {key other place : Nat}
    (hfrom : From (fun other => other = key ∨ keys other) (position + 1) other place) :
    Later keys key position other place := by
  obtain ⟨hkey | hkey, hplace⟩ := hfrom
  · exact .inr ⟨hkey, hplace⟩
  · exact .inl ⟨hkey, Nat.le_of_succ_le hplace⟩

/-- A key that is passed again only further on can be passed first. -/
theorem decides_once_later {keys : Nat → Prop} {key : Nat}
    (hnext : Decides dead (Later keys key position) next out position) (hfresh : ¬ keys key)
    (hdead : ∀ groups, dead key position ↔ out groups = none) :
    Decides dead (From (fun other => other = key ∨ keys other) position) (once key next) out
      position := by
  refine (decides_once hnext ?_ hdead).mono ?_
  · rintro (⟨hkey, _⟩ | ⟨_, hlt⟩)
    · exact hfresh hkey
    · exact Nat.lt_irrefl _ hlt
  · rintro other place (⟨rfl, rfl⟩ | ⟨hother, hplace⟩ | ⟨rfl, hplace⟩)
    · exact ⟨.inl rfl, Nat.le_refl _⟩
    · exact ⟨.inr hother, hplace⟩
    · exact ⟨.inl rfl, Nat.le_of_lt hplace⟩

theorem decides_orElse {first second : Continuation}
    {out₁ out₂ : List (Nat × Span) → Option Match}
    (hfirst : Decides dead reach first out₁ position)
    (hsecond : Decides dead reach second out₂ position) :
    Decides dead reach (orElse first second) (fun groups => (out₁ groups).or (out₂ groups))
      position := by
  intro groups tried hspent
  obtain ⟨hresult, hfailed⟩ := hfirst groups tried hspent
  unfold orElse
  generalize first position groups tried = ran at hresult hfailed
  obtain ⟨found, after⟩ := ran
  cases found with
  | some found => simp [← hresult]
  | none =>
      -- The first branch gave up, so what it has tried does not stand in the way of the second.
      have hafter := hspent.of_failed (hfailed hresult.symm)
      obtain ⟨hresult', hfailed'⟩ := hsecond groups after hafter
      simp only [← hresult, Option.none_or]
      refine ⟨hresult', fun hnone key place hcontains => ?_⟩
      rcases hfailed' hnone key place hcontains with htried | hdead
      · exact hfailed hresult.symm key place htried
      · exact .inr hdead

/-- The results of a list of ways that are tried in order, each with what is left behind it. -/
def firstOf (out : Nat → List (Nat × Span) → Option Match) (found : List Way)
    (groups : List (Nat × Span)) : Option Match :=
  found.findSome? fun way => out way.stop (way.groups ++ groups)

theorem firstOf_singleton (out : Nat → List (Nat × Span) → Option Match) (position : Nat) :
    firstOf out [⟨position, []⟩] = out position := by
  funext groups
  cases hout : out position groups <;> simp [firstOf, hout]

theorem firstOf_append (out : Nat → List (Nat × Span) → Option Match) (first second : List Way) :
    firstOf out (first ++ second) =
      fun groups => (firstOf out first groups).or (firstOf out second groups) := by
  funext groups
  exact List.findSome?_append

theorem decides_prefer (greedy : Bool) {more stop : Continuation}
    {out : Nat → List (Nat × Span) → Option Match} {first second : List Way}
    (hmore : Decides dead reach more (firstOf out first) position)
    (hstop : Decides dead reach stop (firstOf out second) position) :
    Decides dead reach (prefer greedy more stop) (firstOf out (ordered greedy first second))
      position := by
  cases greedy with
  | true =>
      rw [ordered, if_pos rfl, firstOf_append]
      exact decides_orElse hmore hstop
  | false =>
      rw [ordered, if_neg Bool.false_ne_true, firstOf_append]
      exact decides_orElse hstop hmore

end Combinators

/-! ## Single characters in a row -/

section Rounds

variable {text : Array Char} {dead : Nat → Nat → Prop} {keys : Nat → Prop} {next : Continuation}
  {out : Nat → List (Nat × Span) → Option Match} {body : Expr} {set : CharSet} {key : Nat}

theorem contains_single_iff (c other : Char) :
    (CharSet.single c).contains other = true ↔ other = c := by
  simp only [CharSet.single, CharSet.contains, Bool.and_eq_true, decide_eq_true_eq]
  constructor
  · exact fun hboth => Char.le_antisymm hboth.2 hboth.1
  · rintro rfl
    exact ⟨Char.le_refl _, Char.le_refl _⟩

/-- A single character is matched without passing a key. -/
theorem matcher_of_asSet? (hset : body.asSet? = some set) (key : Nat) (next : Continuation)
    (position : Nat) (groups : List (Nat × Span)) (tried : Tried) :
    matcher text body key next position groups tried =
      if oneAt text set position then next (position + 1) groups tried else (none, tried) := by
  unfold Expr.asSet? at hset
  split at hset
  next c =>
    obtain rfl := Option.some.inj hset
    have hstands : standsAt text [c] position = oneAt text (.single c) position := by
      rw [Bool.eq_iff_iff, oneAt]
      cases hat : text[position]? with
      | none => simp [standsAt, hat]
      | some other => simp [standsAt, hat, contains_single_iff]
    simp only [matcher, hstands]
    rfl
  next =>
    obtain rfl := Option.some.inj hset
    simp only [matcher, oneAt]
    split
    next c hat => simp [hat]
    next hat => simp [hat]
  · simp at hset

theorem consumes_of_asSet? (hset : body.asSet? = some set) : body.consumes = true := by
  unfold Expr.asSet? at hset
  split at hset
  · rfl
  · rfl
  · simp at hset

/-- One character and what is decided behind it. -/
theorem decides_character {position : Nat} {reach : Nat → Nat → Prop} {found : List Way}
    (hset : body.asSet? = some set) {inner : Nat}
    (hnext : position + 1 ≤ text.size →
      Decides dead reach next (firstOf out found) (position + 1)) :
    Decides dead reach (matcher text body inner next)
      (firstOf out (if oneAt text set position then found else [])) position := by
  intro groups tried hspent
  rw [matcher_of_asSet? hset]
  by_cases hone : oneAt text set position = true
  · rw [if_pos hone, if_pos hone]
    exact hnext (lt_size_of_oneAt hone) groups tried hspent
  · rw [if_neg hone, if_neg hone]
    exact ⟨rfl, fun _ _ _ htried => .inl htried⟩

/-- Any number of rounds. -/
theorem decides_consumingRounds (greedy : Bool) (hset : body.asSet? = some set)
    (hnext : ∀ position, position ≤ text.size →
      Decides dead (From keys position) next (out position) position)
    (hfresh : ¬ keys key)
    (hdead : ∀ position groups, dead key position ↔
      firstOf out (ways text (.repeated body 0 none greedy) position) groups = none)
    {position : Nat} (hposition : position ≤ text.size) (fuel : Nat)
    (hfuel : text.size < position + fuel) :
    Decides dead (From (fun other => other = key ∨ keys other) position)
      (consumingRounds (matcher text body) greedy fuel key next)
      (firstOf out (ways text (.repeated body 0 none greedy) position)) position := by
  induction fuel generalizing position with
  | zero => omega
  | succ fuel ih =>
      refine decides_once_later ?_ hfresh (hdead position)
      rw [ways_anyNumber hset]
      apply decides_prefer greedy
      · -- Behind one more character the key is passed again, but not at this position.
        rw [ways_oneOrMore hset]
        exact decides_character hset fun hbound =>
          (ih hbound (by omega)).mono fun _ _ => Later.of_next
      · rw [firstOf_singleton]
        exact (hnext position hposition).mono fun _ _ => .inl

/-- One round or more. -/
theorem decides_oneOrMore (greedy : Bool) (hset : body.asSet? = some set)
    (hnext : ∀ position, position ≤ text.size →
      Decides dead (From keys position) next (out position) position)
    (hfresh : ¬ keys key)
    (hdead : ∀ position groups, dead key position ↔
      firstOf out (ways text (.repeated body 1 none greedy) position) groups = none)
    {position : Nat} (hposition : position ≤ text.size) (fuel : Nat)
    (hfuel : text.size < position + fuel) :
    Decides dead (From (fun other => other = key ∨ keys other) position)
      (oneOrMore (matcher text body) greedy fuel key next)
      (firstOf out (ways text (.repeated body 1 none greedy) position)) position := by
  induction fuel generalizing position with
  | zero => omega
  | succ fuel ih =>
      refine decides_once_later ?_ hfresh (hdead position)
      rw [ways_oneOrMore hset]
      refine decides_character hset fun hbound => ?_
      rw [ways_anyNumber hset]
      apply decides_prefer greedy
      · exact (ih hbound (by omega)).mono fun _ _ => Later.of_next
      · rw [firstOf_singleton]
        refine (hnext _ hbound).mono ?_
        rintro other place ⟨hother, hplace⟩
        exact .inl ⟨hother, Nat.le_of_succ_le hplace⟩

end Rounds

/-! ## Expressions -/

section Matcher

variable {text : Array Char} {dead : Nat → Nat → Prop}

theorem standsAt_le {chars : List Char} {position : Nat} (hposition : position ≤ text.size)
    (hstands : standsAt text chars position = true) : position + chars.length ≤ text.size := by
  have hlength := ((standsAt_iff chars position).mp hstands).length_le
  have hsize : text.toList.length = text.size := Array.length_toList
  rw [List.length_drop] at hlength
  omega

theorem firstOf_eq_none_iff {out : Nat → List (Nat × Span) → Option Match} {fails : Nat → Prop}
    (hfails : ∀ position groups, out position groups = none ↔ fails position) (found : List Way)
    (groups : List (Nat × Span)) :
    firstOf out found groups = none ↔ ∀ way ∈ found, fails way.stop := by
  rw [firstOf, List.findSome?_eq_none_iff]
  exact forall₂_congr fun way _ => hfails _ _

/-- The ways of a sequence are tried as those of its parts. -/
theorem firstOf_seq (out : Nat → List (Nat × Span) → Option Match) (first second : Expr)
    (position : Nat) :
    firstOf (fun stop => firstOf out (ways text second stop)) (ways text first position) =
      firstOf out (ways text (.seq first second) position) := by
  funext groups
  rw [ways, firstOf, firstOf]
  induction ways text first position with
  | nil => rfl
  | cons way rest ih =>
      rw [List.findSome?_cons, List.flatMap_cons, List.findSome?_append, ih, List.findSome?_map]
      simp only [firstOf, Function.comp_def, List.append_assoc]
      cases (ways text second way.stop).findSome? _ <;> rfl

/-- What is left behind an expression: it is decided from every position, it passes none of the
keys of the expression, and these lead to no match exactly where they are stuck. -/
structure Behind (text : Array Char) (dead : Nat → Nat → Prop) (expr : Expr) (base : Nat)
    (keys : Nat → Prop) (next : Continuation) (out : Nat → List (Nat × Span) → Option Match)
    (fails : Nat → Prop) : Prop where
  decides : ∀ position, position ≤ text.size →
    Decides dead (From keys position) next (out position) position
  fails_iff : ∀ position groups, out position groups = none ↔ fails position
  fresh : ∀ key, keys key → key < base ∨ base + keyCount expr ≤ key
  dead_iff : ∀ key position, base ≤ key → key < base + keyCount expr →
    (dead key position ↔ Stuck text expr base fails key position)

/-- The keys of an expression and those behind it. -/
def KeysOf (expr : Expr) (base : Nat) (keys : Nat → Prop) (key : Nat) : Prop :=
  (base ≤ key ∧ key < base + keyCount expr) ∨ keys key

/-- Whatever is left behind it, an expression finds the first of its ways behind which that
matches. -/
def Decided (text : Array Char) (dead : Nat → Nat → Prop) (expr : Expr) : Prop :=
  ∀ {base : Nat} {keys : Nat → Prop} {next : Continuation}
    {out : Nat → List (Nat × Span) → Option Match} {fails : Nat → Prop},
    Behind text dead expr base keys next out fails → ∀ position, position ≤ text.size →
      Decides dead (From (KeysOf expr base keys) position) (matcher text expr base next)
        (firstOf out (ways text expr position)) position

theorem decided_empty : Decided text dead .empty := by
  intro base keys next out fails hbehind position hposition
  rw [ways, firstOf_singleton]
  exact (hbehind.decides position hposition).mono fun key place hkey => ⟨.inr hkey.1, hkey.2⟩

theorem decided_literal (chars : List Char) : Decided text dead (.literal chars) := by
  intro base keys next out fails hbehind position hposition groups tried hspent
  simp only [matcher, ways]
  split
  next hstands =>
    rw [firstOf_singleton]
    refine hbehind.decides _ (standsAt_le hposition hstands) groups tried (hspent.mono ?_)
    exact fun key place hkey => ⟨.inr hkey.1, Nat.le_trans (Nat.le_add_right _ _) hkey.2⟩
  next => exact ⟨rfl, fun _ _ _ htried => .inl htried⟩

theorem decided_oneOf (set : CharSet) : Decided text dead (.oneOf set) := by
  intro base keys next out fails hbehind position hposition
  rw [ways]
  have hset : (Expr.oneOf set).asSet? = some set := rfl
  refine decides_character hset fun hbound => ?_
  rw [firstOf_singleton]
  refine (hbehind.decides _ hbound).mono fun key place hkey => ⟨.inr hkey.1, ?_⟩
  exact Nat.le_of_succ_le hkey.2

theorem decided_assertion (condition : Assertion) : Decided text dead (.assertion condition) := by
  intro base keys next out fails hbehind position hposition groups tried hspent
  simp only [matcher, ways]
  split
  next =>
    rw [firstOf_singleton]
    exact hbehind.decides _ hposition groups tried (hspent.mono fun key place hkey =>
      ⟨.inr hkey.1, hkey.2⟩)
  next => exact ⟨rfl, fun _ _ _ htried => .inl htried⟩

/-- The second part is left behind the first one. -/
theorem decided_seq {first second : Expr} (hfirst : Decided text dead first)
    (hsecond : Decided text dead second) : Decided text dead (.seq first second) := by
  intro base keys next out fails hbehind position hposition
  obtain ⟨hdecides, hfails, hfresh, hdead⟩ := hbehind
  simp only [keyCount] at hfresh hdead
  -- The keys of the second part come behind those of the first, and are new to what follows.
  have hrest : Behind text dead second (base + keyCount first) keys next out fails := by
    refine ⟨hdecides, hfails, fun key hkey => ?_, fun key place hleast hmost => ?_⟩
    · have := hfresh key hkey
      omega
    · rw [hdead key place (by omega) (by omega), Stuck, if_neg (by omega)]
  have hall : Behind text dead first base (KeysOf second (base + keyCount first) keys)
      (matcher text second (base + keyCount first) next)
      (fun stop => firstOf out (ways text second stop))
      (fun stop => ∀ way ∈ ways text second stop, fails way.stop) := by
    refine ⟨hsecond hrest, fun stop => firstOf_eq_none_iff hfails _, fun key hkey => ?_,
      fun key place hleast hmost => ?_⟩
    · rcases hkey with hkey | hkey
      · exact .inr hkey.1
      · have := hfresh key hkey
        omega
    · rw [hdead key place hleast (by omega), Stuck, if_pos hmost]
  have hboth := hfirst hall position hposition
  rw [firstOf_seq] at hboth
  refine hboth.mono ?_
  rintro key place ⟨hkey | hkey | hkey, hplace⟩
  · exact ⟨.inl (by simp only [keyCount]; omega), hplace⟩
  · exact ⟨.inl (by simp only [keyCount]; omega), hplace⟩
  · exact ⟨.inr hkey, hplace⟩

/-- Behind both branches the key of the choice is passed. -/
theorem decided_either {first second : Expr} (hfirst : Decided text dead first)
    (hsecond : Decided text dead second) : Decided text dead (.either first second) := by
  intro base keys next out fails hbehind position hposition
  obtain ⟨hdecides, hfails, hfresh, hdead⟩ := hbehind
  simp only [keyCount] at hfresh hdead
  have honce : ∀ stop, stop ≤ text.size →
      Decides dead (From (fun key => key = base ∨ keys key) stop) (once base next) (out stop)
        stop := by
    intro stop hstop
    refine decides_once_later ((hdecides stop hstop).mono fun _ _ => .inl) ?_ fun groups => ?_
    · intro hkey
      have := hfresh base hkey
      omega
    · rw [hdead base stop (by omega) (by omega), Stuck, if_pos rfl, hfails]
  have hleft : Behind text dead first (base + 1) (fun key => key = base ∨ keys key)
      (once base next) out fails := by
    refine ⟨honce, hfails, fun key hkey => ?_, fun key place hleast hmost => ?_⟩
    · rcases hkey with rfl | hkey
      · omega
      · have := hfresh key hkey
        omega
    · rw [hdead key place (by omega) (by omega), Stuck, if_neg (by omega), if_pos hmost]
  have hright : Behind text dead second (base + 1 + keyCount first)
      (fun key => key = base ∨ keys key) (once base next) out fails := by
    refine ⟨honce, hfails, fun key hkey => ?_, fun key place hleast hmost => ?_⟩
    · rcases hkey with rfl | hkey
      · omega
      · have := hfresh key hkey
        omega
    · rw [hdead key place (by omega) (by omega), Stuck, if_neg (by omega), if_neg (by omega)]
  rw [ways, firstOf_append]
  refine decides_orElse ((hfirst hleft position hposition).mono ?_)
    ((hsecond hright position hposition).mono ?_) <;>
    rintro key place ⟨hkey | rfl | hkey, hplace⟩
  · exact ⟨.inl (by simp only [keyCount]; omega), hplace⟩
  · exact ⟨.inl (by simp only [keyCount]; omega), hplace⟩
  · exact ⟨.inr hkey, hplace⟩
  · exact ⟨.inl (by simp only [keyCount]; omega), hplace⟩
  · exact ⟨.inl (by simp only [keyCount]; omega), hplace⟩
  · exact ⟨.inr hkey, hplace⟩

theorem decided_group (index : Nat) {body : Expr} (hbody : Decided text dead body) :
    Decided text dead (.group index body) := by
  intro base keys next out fails hbehind position hposition
  let further : Continuation := fun stop groups tried =>
    next stop ((index, ⟨position, stop⟩) :: groups) tried
  let outside := fun stop groups => out stop ((index, ⟨position, stop⟩) :: groups)
  have hfurther : Behind text dead body base keys further outside fails :=
    ⟨fun stop hstop groups tried hspent => hbehind.decides stop hstop _ tried hspent,
      fun stop groups => hbehind.fails_iff stop _, hbehind.fresh, hbehind.dead_iff⟩
  have hways : firstOf out (ways text (.group index body) position) =
      firstOf outside (ways text body position) := by
    funext groups
    rw [ways, firstOf, List.findSome?_map]
    rfl
  rw [hways]
  exact hbody hfurther position hposition

theorem decided_repeated {body : Expr} {set : CharSet} (hset : body.asSet? = some set)
    {least : Nat} (hleast : least ≤ 1) (greedy : Bool) :
    Decided text dead (.repeated body least none greedy) := by
  intro base keys next out fails hbehind position hposition
  have hbase : base < base + keyCount (.repeated body least none greedy) := by
    simp only [keyCount]
    omega
  have hfresh : ¬ keys base := by
    intro hkey
    have := hbehind.fresh base hkey
    omega
  have hdead : ∀ stop groups, dead base stop ↔
      firstOf out (ways text (.repeated body least none greedy) stop) groups = none := by
    intro stop groups
    rw [hbehind.dead_iff base stop (Nat.le_refl _) hbase, Stuck,
      firstOf_eq_none_iff hbehind.fails_iff]
  have hrounds : Decides dead (From (fun key => key = base ∨ keys key) position)
      (matcher text (.repeated body least none greedy) base next)
      (firstOf out (ways text (.repeated body least none greedy) position)) position := by
    obtain rfl | rfl : least = 0 ∨ least = 1 := by omega
    · rw [matcher, if_pos (consumes_of_asSet? hset)]
      exact decides_consumingRounds greedy hset hbehind.decides hfresh hdead hposition
        (text.size + 1) (by omega)
    · have hmatcher : matcher text (.repeated body 1 none greedy) base next =
          oneOrMore (matcher text body) greedy (text.size + 1) base next := by
        simp [matcher, rounds]
      rw [hmatcher]
      exact decides_oneOrMore greedy hset hbehind.decides hfresh hdead hposition
        (text.size + 1) (by omega)
  refine hrounds.mono ?_
  rintro key place ⟨rfl | hkey, hplace⟩
  · exact ⟨.inl ⟨Nat.le_refl _, hbase⟩, hplace⟩
  · exact ⟨.inr hkey, hplace⟩

theorem decided_of_flat {expr : Expr} (hflat : expr.flat = true) : Decided text dead expr := by
  induction expr with
  | empty => exact decided_empty
  | literal chars => exact decided_literal chars
  | oneOf set => exact decided_oneOf set
  | assertion condition => exact decided_assertion condition
  | seq first second ihfirst ihsecond =>
      obtain ⟨hfirst, hsecond⟩ := Bool.and_eq_true_iff.mp hflat
      exact decided_seq (ihfirst hfirst) (ihsecond hsecond)
  | either first second ihfirst ihsecond =>
      obtain ⟨hfirst, hsecond⟩ := Bool.and_eq_true_iff.mp hflat
      exact decided_either (ihfirst hfirst) (ihsecond hsecond)
  | group index body ih => exact decided_group index (ih hflat)
  | repeated body least most greedy _ =>
      simp only [Expr.flat, Bool.and_eq_true, decide_eq_true_eq, Option.isNone_iff_eq_none] at hflat
      obtain ⟨⟨hisSome, hleast⟩, rfl⟩ := hflat
      obtain ⟨set, hset⟩ := Option.isSome_iff_exists.mp hisSome
      exact decided_repeated hset hleast greedy

end Matcher

/-! ## Searching -/

/-- The match of the first way at a position. -/
def matchAt (text : Array Char) (expr : Expr) (position : Nat) : Option Match :=
  (ways text expr position).head?.map fun way => ⟨⟨position, way.stop⟩, way.groups⟩

variable {text : Array Char} {expr : Expr}

/-- All that was tried leads to no match. -/
def AllStuck (text : Array Char) (expr : Expr) (tried : Tried) : Prop :=
  ∀ key place, tried.contains (key, place) = true → Stuck text expr 0 (fun _ => False) key place

/-- At one position, the first way is the match, and without a way nothing is tried that could
lead to one. -/
theorem matcher_accept (hflat : expr.flat = true) {start : Nat} (hstart : start ≤ text.size)
    {tried : Tried} (htried : AllStuck text expr tried) :
    (matcher text expr 0 (accept start) start [] tried).1 = matchAt text expr start ∧
      (matchAt text expr start = none →
        AllStuck text expr (matcher text expr 0 (accept start) start [] tried).2) := by
  let out := fun position groups => some (Match.mk ⟨start, position⟩ groups)
  have haccept : Behind text (Stuck text expr 0 fun _ => False) expr 0 (fun _ => False)
      (accept start) out (fun _ => False) := by
    refine ⟨fun position _ groups tried _ => ⟨rfl, fun hnone => ?_⟩, by simp [out], by simp,
      fun _ _ _ _ => Iff.rfl⟩
    simp [out] at hnone
  have hdecides := decided_of_flat hflat haccept start hstart
  have hfirst : firstOf out (ways text expr start) [] = matchAt text expr start := by
    rw [matchAt]
    cases ways text expr start <;> simp [firstOf, out]
  obtain ⟨hresult, hfailed⟩ := hdecides [] tried fun key place _ => htried key place
  rw [hfirst] at hresult hfailed
  refine ⟨hresult, fun hnone key place hafter => ?_⟩
  rcases hfailed hnone key place hafter with hbefore | hstuck
  · exact htried key place hbefore
  · exact hstuck

/-- From position to position, it does not matter what was tried in vain. -/
theorem scan_eq (hflat : expr.flat = true) {more start : Nat} {tried : Tried}
    (hmore : start + more ≤ text.size) (htried : AllStuck text expr tried) :
    scan text expr more start tried =
      (List.range' start (more + 1)).findSome? (matchAt text expr) := by
  induction more generalizing start tried with
  | zero =>
      have hstart : start ≤ text.size := hmore
      obtain ⟨hresult, _⟩ := matcher_accept hflat hstart htried
      rw [scan, List.range'_one, List.findSome?_singleton, ← hresult]
      split <;> simp [*]
  | succ more ih =>
      obtain ⟨hresult, hfailed⟩ := matcher_accept hflat (Nat.le_of_add_right_le hmore) htried
      rw [scan, List.range'_succ, List.findSome?_cons, ← hresult]
      split
      next found _ hran => simp [hran]
      next after hran =>
        -- The attempt failed, so all that it tried is stuck at the next position as well.
        rw [hran] at hresult hfailed ⊢
        exact ih (by omega) (hfailed hresult.symm)

/-- A search finds the first way at the leftmost position that has one. -/
theorem find?_eq (hflat : expr.flat = true) (start : Nat) :
    find? text expr start =
      (List.range' start (text.size + 1 - start)).findSome? (matchAt text expr) := by
  unfold find?
  split
  next hstart =>
    rw [scan_eq hflat (by omega) (by simp [AllStuck]), Nat.succ_sub hstart]
  next hstart => simp [show text.size + 1 - start = 0 by omega]

end CommandGrammar.Search
