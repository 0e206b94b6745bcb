import CommandGrammar.Pattern.Expr
import CommandGrammar.Text.Span
import Std.Data.HashSet

/-! # Searching for a pattern

A search tries the positions of a text from left to right, and at each position the ways to match
in the order that the expression prefers; the first that succeeds is the match. What has been
tried at a position is remembered: every place of the expression where ways to match come
together has a key, and a key that was passed at a position once is not passed there again. A way
through it has then failed already or is on its way, so nothing is lost, a round of a repetition
that matches nothing ends that repetition, and the time is bounded by the product of the two
sizes.
-/

namespace CommandGrammar

open Text (Span)

/-- What a pattern matched: the whole span, and the spans of groups, the latest first. -/
structure Match where
  span : Span
  groups : List (Nat × Span)
deriving DecidableEq, Repr

namespace Match

/-- The span of a group: the whole match for number zero, else what the group matched last. -/
def group? (found : Match) (index : Nat) : Option Span :=
  if index = 0 then some found.span
  else (found.groups.find? fun entry => entry.1 == index).map (·.2)

end Match

namespace Search

/-- The keys that were passed, each with the position. -/
abbrev Tried := Std.HashSet (Nat × Nat)

/-- What is left to match: from a position, with the groups so far and what was tried, it
returns the match, if there is one, and all that has been tried then. -/
abbrev Continuation := Nat → List (Nat × Span) → Tried → Option Match × Tried

/-- The matcher of an expression, given the first of its keys and what is left after it. -/
abbrev Matcher := Nat → Continuation → Continuation

/-- Gives up. -/
def fail : Continuation := fun _ _ tried => (none, tried)

/-- Goes on unless the key was passed at this position before. -/
def once (key : Nat) (next : Continuation) : Continuation := fun position groups tried =>
  if tried.contains (key, position) then (none, tried)
  else next position groups (tried.insert (key, position))

/-- Goes on in the first way and, if that fails, in the second. -/
def orElse (first second : Continuation) : Continuation := fun position groups tried =>
  match first position groups tried with
  | (some found, tried) => (some found, tried)
  | (none, tried) => second position groups tried

/-- Goes on with another round or without; a greedy repetition tries the round first. -/
def prefer (greedy : Bool) (more stop : Continuation) : Continuation :=
  fun position groups tried =>
    if greedy then orElse more stop position groups tried
    else orElse stop more position groups tried

/-- Exactly so many rounds. Every round has keys of its own, `stride` apart. -/
def rounds (body : Matcher) (stride : Nat) : Nat → Matcher
  | 0, _, next => next
  | count + 1, key, next => body key (rounds body stride count (key + stride) next)

/-- At most so many rounds. Every round has keys of its own. -/
def atMost (body : Matcher) (stride : Nat) (greedy : Bool) : Nat → Matcher
  | 0, _, next => next
  | count + 1, key, next =>
    prefer greedy
      (body (key + 1) (atMost body stride greedy count (key + 1 + stride) (once key next)))
      (once key next)

/-- One round or more. All rounds share their keys, so a round begins at most once at each
position, and as many rounds as the text has positions are enough. -/
def oneOrMore (body : Matcher) (greedy : Bool) : Nat → Matcher
  | 0, _, _ => fail
  | fuel + 1, key, next => fun position groups tried =>
    once key (body (key + 1) (prefer greedy (oneOrMore body greedy fuel key next) next))
      position groups tried

/-- No round, or one round or more, each of which may match nothing. -/
def optionalRounds (body : Matcher) (greedy : Bool) (fuel : Nat) : Matcher := fun key next =>
  prefer greedy (oneOrMore body greedy fuel (key + 1) (once key next)) (once key next)

/-- Any number of rounds, each of which matches a character. Before every round stands the same
choice between the round and an end, which is made at most once at each position. -/
def consumingRounds (body : Matcher) (greedy : Bool) : Nat → Matcher
  | 0, _, _ => fail
  | fuel + 1, key, next => fun position groups tried =>
    once key (prefer greedy (body (key + 1) (consumingRounds body greedy fuel key next)) next)
      position groups tried

/-- How many keys an expression has. -/
def keyCount : Expr → Nat
  | .seq first second => keyCount first + keyCount second
  | .either first second => keyCount first + keyCount second + 1
  | .group _ body => keyCount body
  | .repeated body least none _ => least * keyCount body + keyCount body + 2
  | .repeated body least (some most) _ =>
    least * keyCount body + (most - least) * (keyCount body + 1)
  | _ => 0

/-- Whether the characters stand in the text at a position. -/
def standsAt (text : Array Char) : List Char → Nat → Bool
  | [], _ => true
  | c :: rest, position => text[position]? == some c && standsAt text rest (position + 1)

/-- The character before a position. -/
def charBefore (text : Array Char) : Nat → Option Char
  | 0 => none
  | position + 1 => text[position]?

/-- The matcher of an expression on a text. -/
def matcher (text : Array Char) : Expr → Matcher
  | .empty, _, next => next
  | .literal chars, _, next => fun position groups tried =>
    if standsAt text chars position then next (position + chars.length) groups tried
    else (none, tried)
  | .oneOf set, _, next => fun position groups tried =>
    match text[position]? with
    | some c => if set.contains c then next (position + 1) groups tried else (none, tried)
    | none => (none, tried)
  | .assertion condition, _, next => fun position groups tried =>
    if condition.holds (charBefore text position) text[position]? then
      next position groups tried
    else (none, tried)
  | .seq first second, key, next =>
    matcher text first key (matcher text second (key + keyCount first) next)
  | .either first second, key, next =>
    orElse
      (matcher text first (key + 1) (once key next))
      (matcher text second (key + 1 + keyCount first) (once key next))
  | .group index body, key, next => fun position groups tried =>
    matcher text body key
      (fun stop groups tried => next stop ((index, ⟨position, stop⟩) :: groups) tried)
      position groups tried
  | .repeated body 0 none greedy, key, next =>
    if body.consumes then
      consumingRounds (matcher text body) greedy (text.size + 1) key next
    else optionalRounds (matcher text body) greedy (text.size + 1) key next
  | .repeated body (least + 1) none greedy, key, next =>
    rounds (matcher text body) (keyCount body) least key
      (oneOrMore (matcher text body) greedy (text.size + 1) (key + least * keyCount body) next)
  | .repeated body least (some most) greedy, key, next =>
    rounds (matcher text body) (keyCount body) least key
      (atMost (matcher text body) (keyCount body) greedy (most - least)
        (key + least * keyCount body) next)

/-- Accepts what was matched from `start` to the position reached. -/
def accept (start : Nat) : Continuation := fun position groups tried =>
  (some ⟨⟨start, position⟩, groups⟩, tried)

/-- Tries a position and then the `more` positions behind it. -/
def scan (text : Array Char) (expr : Expr) : Nat → Nat → Tried → Option Match
  | more, start, tried =>
    match matcher text expr 0 (accept start) start [] tried with
    | (some found, _) => some found
    | (none, tried) =>
      match more with
      | 0 => none
      | more + 1 => scan text expr more (start + 1) tried

/-- The preferred match at the leftmost position from `start` on that has one. -/
def find? (text : Array Char) (expr : Expr) (start : Nat) : Option Match :=
  if start ≤ text.size then scan text expr (text.size - start) start ∅ else none

/-- The matches from a position on. An empty match directly behind the match before it, which
ended at `last`, is skipped: the search goes on one character further. -/
def findAllWithin (text : Array Char) (expr : Expr) :
    Nat → Nat → Option Nat → List Match
  | 0, _, _ => []
  | fuel + 1, start, last =>
    match find? text expr start with
    | none => []
    | some found =>
      if found.span.start = found.span.stop ∧ last = some found.span.stop then
        findAllWithin text expr fuel (start + 1) last
      else found :: findAllWithin text expr fuel found.span.stop (some found.span.stop)

/-- The matches of an expression in a text, from left to right without overlap. Every step moves
on or finds the one empty match at its position, so twice the number of positions bounds them. -/
def findAll (text : Array Char) (expr : Expr) : List Match :=
  findAllWithin text expr (2 * text.size + 3) 0 none

end Search

end CommandGrammar
