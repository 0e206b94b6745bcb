import CommandGrammar.Handle
import CommandGrammar.Text.Quoted

/-! # Traces

Building, registering and dispatching report what they do as events. An operation returns its
events in the order in which they happened; nothing is written anywhere, so a trace can be
compared with the outcome that it accompanies.
-/

namespace CommandGrammar

/-- How much an event matters. -/
inductive Severity where
  | trace
  | debug
  | warning
deriving DecidableEq, Repr

namespace Severity

/-- The name under which a severity is reported. -/
def display : Severity → String
  | .trace => "TRACE"
  | .debug => "DEBUG"
  | .warning => "WARN"

end Severity

/-- One thing that happened. -/
inductive Event where
  /-- A token was captured into a store that does not exist. -/
  | droppedCapture (store : StoreRef)
  /-- A child took the place of another one under the same key. -/
  | replacedChild (parent : String) (previous next : NodeRef)
  /-- A node was added to the grammar. -/
  | builtNode (node : NodeRef) (name : String)
  /-- A capturing node sent a token to its wildcard child and recorded it. -/
  | capturedToken (node token : String)
  /-- A node became the entry of a command. -/
  | registeredCommand (node : NodeRef) (command : String)
  /-- A command was cut into tokens. -/
  | dispatching (command : String) (tokens : List String)
  /-- A token led nowhere. -/
  | unresolvedToken (position : Nat) (token : String)
  /-- An executable node was passed because the next token leads deeper. -/
  | deferredExecution (position : Nat) (token : String)
  /-- The action of a node is about to run. -/
  | executing (node : NodeRef) (position : Nat) (token : String)
  /-- The tokens ran out without an action. -/
  | nothingExecuted (token : String)
  /-- A template was given more callbacks than it has positions. -/
  | ignoredCallbacks (provided : Nat)
deriving DecidableEq, Repr

/-- The events of an operation, first things first. -/
abbrev Trace := List Event

/-- The value of one named field of a reported event. -/
inductive FieldValue where
  | text (value : String)
  | number (value : Nat)
deriving DecidableEq, Repr

namespace Event

/-- How much the event matters. -/
def severity : Event → Severity
  | .droppedCapture _ => .warning
  | .replacedChild .. | .registeredCommand .. | .dispatching .. | .nothingExecuted _
  | .ignoredCallbacks _ => .debug
  | .builtNode .. | .capturedToken .. | .unresolvedToken .. | .deferredExecution ..
  | .executing .. => .trace

/-- The sentence that reports the event. -/
def message : Event → String
  | .droppedCapture store => "Dropping capture for unknown " ++ store.display
  | .replacedChild _ previous next =>
    "replaced existing child " ++ previous.display ++ " with " ++ next.display
  | .builtNode node _ => "built " ++ node.display
  | .capturedToken .. => "capturing wildcard token"
  | .registeredCommand node _ => "registered " ++ node.display
  | .dispatching .. => "dispatching"
  | .unresolvedToken .. => "token did not resolve"
  | .deferredExecution .. => "executable node deferred to a deeper match"
  | .executing node .. => "executing " ++ node.display
  | .nothingExecuted _ => "no executable node reached"
  | .ignoredCallbacks _ => "ignoring extra SELECT callbacks"

/-- The named fields that are reported beside the sentence. -/
def fields : Event → List (String × FieldValue)
  | .droppedCapture _ => []
  | .replacedChild parent .. => [("parent", .text parent)]
  | .builtNode _ name => [("name", .text name)]
  | .capturedToken node token => [("node", .text node), ("token", .text token)]
  | .registeredCommand _ command => [("command", .text command)]
  | .dispatching command tokens =>
    [("command", .text command), ("tokens", .text (Text.quotedList tokens))]
  | .unresolvedToken position token
  | .deferredExecution position token
  | .executing _ position token => [("position", .number position), ("token", .text token)]
  | .nothingExecuted token => [("token", .text token)]
  | .ignoredCallbacks provided => [("provided", .number provided)]

end Event

end CommandGrammar
