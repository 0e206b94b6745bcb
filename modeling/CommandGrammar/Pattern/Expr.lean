import CommandGrammar.Pattern.Assertion

/-! # Pattern expressions

Expressions are kept in a simplified form. Adjacent literals are one literal, sequences and
choices are nested to the right, a choice between single characters is a set, and a beginning
that all branches of a choice share is written once, before the choice. Which match is preferred
depends on the form, so the simplifications belong to the meaning of a pattern: with the shared
beginning written once, every way to match it is tried with all branches before the next way.
-/

namespace CommandGrammar

/-- A pattern expression. -/
inductive Expr where
  /-- Matches the empty text. -/
  | empty
  /-- Matches the given characters. -/
  | literal (chars : List Char)
  /-- Matches one character of a set. -/
  | oneOf (set : CharSet)
  /-- Matches the empty text where the assertion holds. -/
  | assertion (condition : Assertion)
  /-- Matches one expression and then another. -/
  | seq (first second : Expr)
  /-- Matches either expression and prefers the first. -/
  | either (first second : Expr)
  /-- Remembers what the body matched last. -/
  | group (index : Nat) (body : Expr)
  /-- Matches the body `least` times or more often, up to `most` if that is given. A greedy
  repetition prefers more rounds and a reluctant one fewer. -/
  | repeated (body : Expr) (least : Nat) (most : Option Nat) (greedy : Bool)
deriving DecidableEq, Repr

namespace Expr

/-- The number of constructors in an expression. -/
def size : Expr → Nat
  | .seq first second | .either first second => first.size + second.size + 1
  | .group _ body | .repeated body .. => body.size + 1
  | _ => 1

/-- The highest number of a group in an expression, zero if there is none. -/
def lastGroup : Expr → Nat
  | .seq first second | .either first second => max first.lastGroup second.lastGroup
  | .group index body => max index body.lastGroup
  | .repeated body .. => body.lastGroup
  | _ => 0

/-- Whether the expression is too weak to match any character at all, by its form. -/
def matchesNoCharacter : Expr → Bool
  | .empty | .assertion _ => true
  | .literal chars => chars.isEmpty
  | .oneOf _ => false
  | .seq first second | .either first second =>
    first.matchesNoCharacter && second.matchesNoCharacter
  | .group _ body => body.matchesNoCharacter
  | .repeated body _ most _ => body.matchesNoCharacter || most == some 0

/-- Whether every match holds a character, by the form of the expression. -/
def consumes : Expr → Bool
  | .empty | .assertion _ => false
  | .literal chars => !chars.isEmpty
  | .oneOf _ => true
  | .seq first second => first.consumes || second.consumes
  | .either first second => first.consumes && second.consumes
  | .group _ body => body.consumes
  | .repeated body least _ _ => decide (0 < least) && body.consumes

/-- The members of a sequence; every other expression but the empty one is its only member. -/
def factors : Expr → List Expr
  | .empty => []
  | .seq first second => first :: second.factors
  | expr => [expr]

/-- The branches of a choice; every other expression is its only branch. -/
def branches : Expr → List Expr
  | .either first second => first :: second.branches
  | expr => [expr]

/-- Joins adjacent literals of a sequence. -/
def mergeLiterals : List Expr → List Expr
  | [] => []
  | .literal chars :: rest =>
    match mergeLiterals rest with
    | .literal more :: others => .literal (chars ++ more) :: others
    | others => .literal chars :: others
  | expr :: rest => expr :: mergeLiterals rest

/-- Nests the members of a sequence to the right. -/
def ofFactors : List Expr → Expr
  | [] => .empty
  | [expr] => expr
  | expr :: rest => .seq expr (ofFactors rest)

/-- Nests the branches of a choice to the right. -/
def ofBranches : List Expr → Expr
  | [] => .oneOf .none
  | [expr] => expr
  | expr :: rest => .either expr (ofBranches rest)

/-- The expressions one after the other. -/
def sequence (exprs : List Expr) : Expr := ofFactors (mergeLiterals (exprs.flatMap factors))

/-- The set of an expression that matches exactly one character. -/
def asSet? : Expr → Option CharSet
  | .literal [c] => some (.single c)
  | .oneOf set => some set
  | _ => none

/-- The longest beginning that two sequences share. Sets are compared as they were written, so a
beginning is not shared by `[ab]` and `[a-b]`. -/
def sharedFactors : List Expr → List Expr → List Expr
  | left :: lefts, right :: rights =>
    if left = right then left :: sharedFactors lefts rights else []
  | _, _ => []

/-- The beginning that all branches share, if each is a sequence of at least two members. -/
def sharedBeginning : List Expr → List Expr
  | [] => []
  | first :: rest =>
    if (first :: rest).all fun expr => decide (2 ≤ expr.factors.length) then
      rest.foldl (fun shared expr => sharedFactors shared expr.factors) first.factors
    else []

/-- The expressions as a choice that prefers the first. The fuel bounds how often a shared
beginning is taken out; the total size of the branches is enough, since each time they shrink. -/
def choiceWithin : Nat → List Expr → Expr
  | 0, exprs => ofBranches exprs
  | fuel + 1, exprs =>
    match exprs.flatMap branches with
    | [expr] => expr
    | flat =>
      match flat.mapM asSet? with
      | some sets => .oneOf (.unions sets)
      | none =>
        match sharedBeginning flat with
        | [] => ofBranches flat
        | shared =>
          let remainders := flat.map fun expr => sequence (expr.factors.drop shared.length)
          sequence (shared ++ [choiceWithin fuel remainders])

/-- The expressions as a choice that prefers the first. -/
def choice (exprs : List Expr) : Expr :=
  choiceWithin (exprs.foldr (fun expr total => expr.size + total) 1) exprs

/-- A repetition. A body that matches no character is repeated at most once, no round at all is
the empty expression, and exactly one round is the body. -/
def repeatExpr (body : Expr) (least : Nat) (most : Option Nat) (greedy : Bool) : Expr :=
  let (least, most) :=
    if body.matchesNoCharacter then (min least 1, some (min (most.getD 1) 1)) else (least, most)
  if most = some 0 then .empty
  else if least = 1 ∧ most = some 1 then body
  else .repeated body least most greedy

end Expr

end CommandGrammar
