import CommandGrammar.Handle

/-! # Outcomes of dispatching

A command either reaches an executable node, and then the value of its action comes back, or it
does not, and then the last token comes back in a diagnostic. Neither is an error.
-/

namespace CommandGrammar

/-- The diagnostic of a command that ran nothing. -/
structure Unmatched where
  token : String
deriving DecidableEq, Repr

namespace Unmatched

/-- The sentence that reports a command that ran nothing. -/
def display (diagnostic : Unmatched) : String :=
  NodeRef.notFoundName ++ ": no command matches '" ++ diagnostic.token ++ "'"

end Unmatched

/-- What became of one command. -/
inductive Outcome (R : Type) where
  | executed (value : R)
  | unmatched (diagnostic : Unmatched)
deriving DecidableEq, Repr

namespace Outcome

variable {R S : Type}

/-- The value, if an action ran. -/
def value? : Outcome R → Option R
  | .executed value => some value
  | .unmatched _ => none

/-- The diagnostic, if nothing ran. -/
def diagnostic? : Outcome R → Option Unmatched
  | .executed _ => none
  | .unmatched diagnostic => some diagnostic

/-- Changes the value of an action that ran. -/
def map (f : R → S) : Outcome R → Outcome S
  | .executed value => .executed (f value)
  | .unmatched diagnostic => .unmatched diagnostic

end Outcome

end CommandGrammar
