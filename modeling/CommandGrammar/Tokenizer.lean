import CommandGrammar.Pattern

/-! # Tokenizers

A tokenizer cuts a command into tokens: at the occurrences of a delimiter, at the matches of a
pattern, or by collecting one group of every match. All three select spans of the command, in
order and without overlap, and drop the empty ones.
-/

namespace CommandGrammar

open Text (Span)

/-- How commands are cut. -/
inductive Strategy where
  | literal
  | regex
  | regexGroup (group : Nat)
deriving DecidableEq, Repr

namespace Strategy

/-- The name of a strategy. -/
def display : Strategy → String
  | .literal => "literal"
  | .regex => "regex"
  | .regexGroup group => "regex_group(" ++ toString group ++ ")"

end Strategy

/-- A way to cut commands into tokens. -/
inductive Tokenizer where
  /-- Cuts at a delimiter. -/
  | delimiter (delimiter : String)
  /-- Cuts at the matches of a pattern. -/
  | separator (pattern : Pattern)
  /-- Collects a group of every match of a pattern. -/
  | extraction (pattern : Pattern) (group : Nat)
deriving DecidableEq, Repr

namespace Tokenizer

/-- Makes a tokenizer from a delimiter or pattern text, by a given way to compile patterns. A
pattern is kept in the cache even when the group asked for does not exist. -/
def makeWith (compiler : Pattern.Compiler) (cache : PatternCache) (strategy : Strategy)
    (source : String) : Except PatternFault Tokenizer × PatternCache :=
  match strategy with
  | .literal =>
    if source.isEmpty then (.error .emptyDelimiter, cache) else (.ok (.delimiter source), cache)
  | .regex =>
    let (result, cache) := cache.compile compiler source
    (result.map .separator, cache)
  | .regexGroup group =>
    let (result, cache) := cache.compile compiler source
    match result with
    | .error fault => (.error fault, cache)
    | .ok pattern =>
      if group < pattern.groupCount then (.ok (.extraction pattern group), cache)
      else (.error (.missingGroup source group), cache)

/-- Makes a tokenizer from a delimiter or pattern text. -/
def make (cache : PatternCache) (strategy : Strategy) (source : String) :
    Except PatternFault Tokenizer × PatternCache :=
  makeWith Pattern.read? cache strategy source

/-- The strategy of a tokenizer. -/
def strategy : Tokenizer → Strategy
  | .delimiter _ => .literal
  | .separator _ => .regex
  | .extraction _ group => .regexGroup group

/-- The delimiter or pattern text that a tokenizer was made from. -/
def source : Tokenizer → String
  | .delimiter text => text
  | .separator pattern | .extraction pattern _ => pattern.source

/-- The spans that a tokenizer selects from a text, empty ones included. -/
def spans (tokenizer : Tokenizer) (text : List Char) : List Span :=
  match tokenizer with
  | .delimiter mark => Span.gaps 0 text.length (Text.occurrences mark.toList 0 0 text)
  | .separator pattern => Span.gaps 0 text.length ((pattern.findAll text).map (·.span))
  | .extraction pattern group => (pattern.findAll text).filterMap (·.group? group)

/-- The tokens of a command. -/
def tokenize (tokenizer : Tokenizer) (command : String) : List String :=
  Span.texts command.toList (tokenizer.spans command.toList)

end Tokenizer

end CommandGrammar
