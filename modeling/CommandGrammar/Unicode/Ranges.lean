/-! # Tables of code points

A character property is given by the ascending, disjoint intervals of code points that have it.
-/

namespace CommandGrammar.Unicode

/-- Closed intervals of code points, ascending and disjoint. -/
abbrev Ranges := List (Nat × Nat)

/-- Membership in a table. The scan stops at the first interval that begins past the code
point, which is sound because tables are ascending. -/
def Ranges.contains : Ranges → Nat → Bool
  | [], _ => false
  | (first, last) :: rest, code =>
    if code < first then false else if code ≤ last then true else Ranges.contains rest code

/-- Every interval is non-empty and starts past the end of the one before it. -/
def Ranges.Ascending : Ranges → Prop
  | [] => True
  | [(first, last)] => first ≤ last
  | (first, last) :: (first', last') :: rest =>
    first ≤ last ∧ last < first' ∧ Ranges.Ascending ((first', last') :: rest)

end CommandGrammar.Unicode
