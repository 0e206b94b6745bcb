import CommandGrammar.Dispatcher
import CommandGrammar.Template.Select

/-! # Sessions

A session is a list of operations that are performed on a dispatcher one after the other. An
operation that is refused leaves the dispatcher alone, except that a template whose store does
not exist leaves behind the node that it added before it needed the store. A dispatcher is
reachable if operations lead to it from one with an empty grammar.
-/

namespace CommandGrammar

variable {R : Type}

/-- Everything that can change a dispatcher. -/
inductive Operation (R : Type) where
  | createStore
  | build (spec : NodeSpec R)
  | attach (parent child : NodeRef)
  | attachMany (parent : NodeRef) (children : List (String × NodeRef))
  | installSelect (store : StoreRef) (callbacks : List (Select.Callback R))
  /-- Steps from a node with a token and records what falls to the wildcard. -/
  | advance (node : NodeRef) (token : String)
  /-- Clears the captures reachable from a node. -/
  | clearFrom (root : NodeRef)
  /-- Clears the captures reachable from the registered entries. -/
  | clearAll
  | register (root : NodeRef)
  | registerAs (name : String) (root : NodeRef)
  | run (command : String)
  | runTokens (tokens : List String)
  | setTokenizer (strategy : Strategy) (source : String)

/-- What an operation answers. -/
inductive Response (R : Type) where
  | done
  | store (created : StoreRef)
  | node (reached : NodeRef)
  | outcome (outcome : Outcome R)
  | refused (error : Error)

/-- An operation that was performed: what it answered, the dispatcher afterwards and the
trace. -/
structure Performed (R : Type) where
  response : Response R
  dispatcher : Dispatcher R
  trace : Trace := []

namespace Dispatcher

/-- The dispatcher with a changed grammar, or as it was if the change is refused. -/
def performChange {α : Type} (dispatcher : Dispatcher R) (respond : α → Response R) :
    Except Error (Change R α) → Performed R
  | .ok change =>
    ⟨respond change.value, { dispatcher with grammar := change.grammar }, change.trace⟩
  | .error error => ⟨.refused error, dispatcher, []⟩

/-- The dispatcher with another entry, or as it was if the entry is refused. -/
def performEntry (dispatcher : Dispatcher R) :
    Except Error (Dispatcher R × Trace) → Performed R
  | .ok (after, trace) => ⟨.done, after, trace⟩
  | .error error => ⟨.refused error, dispatcher, []⟩

/-- The dispatcher with another tokenizer, or as it was if none could be made. -/
def performTokenizer (dispatcher : Dispatcher R) : Except PatternFault Tokenizer → Performed R
  | .ok tokenizer => ⟨.done, { dispatcher with tokenizer }, []⟩
  | .error fault => ⟨.refused (.pattern fault), dispatcher, []⟩

/-- The outcome of a run as an answer. -/
def performRun (run : Run R) : Performed R := ⟨.outcome run.outcome, run.dispatcher, run.trace⟩

/-- Performs one operation. -/
def perform (dispatcher : Dispatcher R) : Operation R → Performed R
  | .createStore =>
    let (store, grammar) := dispatcher.grammar.newStore
    ⟨.store store, { dispatcher with grammar }, []⟩
  | .build spec => dispatcher.performChange .node (dispatcher.grammar.build spec)
  | .attach parent child =>
    dispatcher.performChange (fun _ => .done) (dispatcher.grammar.attach parent child)
  | .attachMany parent children =>
    dispatcher.performChange (fun _ => .done) (dispatcher.grammar.attachMany parent children)
  | .installSelect store callbacks =>
    let installed := Select.install dispatcher.grammar store callbacks
    let response : Response R :=
      match installed.value with
      | .ok root => .node root
      | .error error => .refused error
    ⟨response, { dispatcher with grammar := installed.grammar }, installed.trace⟩
  | .advance node token =>
    dispatcher.performChange .node (.ok (dispatcher.grammar.advance node token))
  | .clearFrom root =>
    ⟨.done, { dispatcher with grammar := dispatcher.grammar.clearCaptures root }, []⟩
  | .clearAll => ⟨.done, dispatcher.clearCaptures, []⟩
  | .register root => dispatcher.performEntry (dispatcher.register root)
  | .registerAs name root => dispatcher.performEntry (dispatcher.registerAs name root)
  | .run command => performRun (dispatcher.run command)
  | .runTokens tokens => performRun (dispatcher.runTokens tokens)
  | .setTokenizer strategy source =>
    dispatcher.performTokenizer (Tokenizer.make .empty strategy source).1

/-- Performs the operations of a session in order. -/
def performAll (dispatcher : Dispatcher R) : List (Operation R) → List (Performed R)
  | [] => []
  | operation :: rest =>
    let performed := dispatcher.perform operation
    performed :: performed.dispatcher.performAll rest

/-- The dispatchers that sessions lead to, from an empty grammar and any tokenizer. -/
inductive Reachable : Dispatcher R → Prop where
  | start (tokenizer : Tokenizer) : Reachable { tokenizer }
  | step {dispatcher : Dispatcher R} (operation : Operation R) :
      Reachable dispatcher → Reachable (dispatcher.perform operation).dispatcher

end Dispatcher

end CommandGrammar
