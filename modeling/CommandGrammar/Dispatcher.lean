import CommandGrammar.Diagram
import CommandGrammar.Grammar.Build
import CommandGrammar.Outcome
import CommandGrammar.Tokenizer

/-! # Dispatching commands

A dispatcher cuts a command into tokens, walks the grammar with them from the entry of the first
token on, and runs the first executable node on which the walk settles. The walk is greedy and
never goes back: an executable node is passed whenever the next token leads on from it. Whatever
happens, the captures reachable from the entry are cleared before the outcome is returned.
-/

namespace CommandGrammar

/-- A grammar with named entries and a tokenizer. -/
structure Dispatcher (R : Type) where
  grammar : Grammar R := {}
  entries : Std.ExtTreeMap String Nat := ∅
  tokenizer : Tokenizer

/-- What running a command returns: the outcome, the dispatcher afterwards and the trace. -/
structure Run (R : Type) where
  outcome : Outcome R
  dispatcher : Dispatcher R
  trace : Trace

namespace Grammar

variable {R : Type}

/-- Walks on from a node that the token at a position has led to. A node without an action is
passed; an executable node is passed if the next token leads on from it and runs otherwise. -/
def walk : Grammar R → NodeRef → Nat → String → List String → Change R (Option R)
  | grammar, .notFound, position, token, _ => ⟨none, grammar, [.unresolvedToken position token]⟩
  | grammar, node, position, token, [] =>
    if grammar.isExecutable node then
      ⟨grammar.execute node, grammar, [.executing node position token]⟩
    else ⟨none, grammar, []⟩
  | grammar, node, position, token, next :: rest =>
    let executable := grammar.isExecutable node
    if executable && grammar.lookup node next == .notFound then
      ⟨grammar.execute node, grammar, [.executing node position token]⟩
    else
      let deferred := if executable then [Event.deferredExecution position token] else []
      let step := grammar.advance node next
      let final := walk step.grammar step.value (position + 1) next rest
      ⟨final.value, final.grammar, deferred ++ step.trace ++ final.trace⟩

end Grammar

namespace Dispatcher

variable {R : Type}

/-- The node registered under a name. -/
def entry (dispatcher : Dispatcher R) (name : String) : NodeRef :=
  match dispatcher.entries[name]? with
  | some index => .stored index
  | none => .notFound

/-- Registers a node as the entry of commands that begin with the given name. -/
def registerAs (dispatcher : Dispatcher R) (name : String) (root : NodeRef) :
    Except Error (Dispatcher R × Trace) :=
  match dispatcher.grammar.place? root with
  | none => .error (.unknownNode root)
  | some index =>
    .ok ({ dispatcher with entries := dispatcher.entries.insert name index },
      [.registeredCommand root name])

/-- Registers a node as an entry under its own name. -/
def register (dispatcher : Dispatcher R) (root : NodeRef) :
    Except Error (Dispatcher R × Trace) :=
  match dispatcher.grammar.node? root with
  | none => .error (.unknownNode root)
  | some node => dispatcher.registerAs node.name root

/-- The registered names in the order of their code points. -/
def commands (dispatcher : Dispatcher R) : List String := dispatcher.entries.keys

/-- The position that tokens lead to, recording nothing. -/
def resolve (dispatcher : Dispatcher R) : List String → NodeRef
  | [] => .notFound
  | first :: rest => rest.foldl dispatcher.grammar.lookup (dispatcher.entry first)

/-- The help text of the position that tokens lead to. -/
def helpAt (dispatcher : Dispatcher R) (tokens : List String) : Option String :=
  dispatcher.grammar.help? (dispatcher.resolve tokens)

/-- Runs a command that is already cut into tokens. -/
def runTokens (dispatcher : Dispatcher R) : List String → Run R
  | [] => ⟨.unmatched ⟨""⟩, dispatcher, []⟩
  | first :: rest =>
    let root := dispatcher.entry first
    let walked := dispatcher.grammar.walk root 0 first rest
    let after := { dispatcher with grammar := walked.grammar.clearCaptures root }
    match walked.value with
    | some value => ⟨.executed value, after, walked.trace⟩
    | none =>
      let last := rest.getLastD first
      ⟨.unmatched ⟨last⟩, after, walked.trace ++ [.nothingExecuted last]⟩

/-- Cuts a command into tokens and runs it. -/
def run (dispatcher : Dispatcher R) (command : String) : Run R :=
  let tokens := dispatcher.tokenizer.tokenize command
  let ran := dispatcher.runTokens tokens
  { ran with trace := .dispatching command tokens :: ran.trace }

/-- Empties every store that a node reachable from a registered entry captures into. -/
def clearCaptures (dispatcher : Dispatcher R) : Dispatcher R :=
  { dispatcher with
    grammar := (dispatcher.entries.toList.map (·.2)).foldl
      (fun grammar index => grammar.clearCaptures (.stored index)) dispatcher.grammar }

/-- The flowchart of all registered commands, in the order of their names. -/
def diagram (dispatcher : Dispatcher R) (direction : Diagram.Direction) : String :=
  Diagram.render dispatcher.grammar (dispatcher.commands.map dispatcher.entry) direction

end Dispatcher

end CommandGrammar
