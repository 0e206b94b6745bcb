import CommandGrammar.Tokenizer

/-! # Settings

The settings of a dispatcher say how it cuts commands. Whatever is not set has a default, which
is to cut at runs of white space.
-/

namespace CommandGrammar

/-- The strategies that settings can name. The number of the group is a setting of its own. -/
inductive StrategyName where
  | literal
  | regex
  | regexGroup
deriving DecidableEq, Repr

namespace StrategyName

/-- All names, in the order in which they are listed. -/
def all : List StrategyName := [.literal, .regex, .regexGroup]

/-- How a strategy is named in a settings file. -/
def display : StrategyName → String
  | .literal => "literal"
  | .regex => "regex"
  | .regexGroup => "regex_group"

/-- The strategy with a name. -/
def ofString? (name : String) : Option StrategyName := all.find? fun known => known.display == name

end StrategyName

/-- The settings of a dispatcher. -/
structure Settings where
  strategy : StrategyName := .regex
  /-- The delimiter or the pattern. -/
  pattern : String := "\\s+"
  /-- The group that the strategy with groups collects. -/
  group : Nat := 1
deriving DecidableEq, Repr

namespace Settings

/-- The settings when nothing is set. -/
def default : Settings := {}

/-- The strategy that the settings select. -/
def tokenizerStrategy (settings : Settings) : Strategy :=
  match settings.strategy with
  | .literal => .literal
  | .regex => .regex
  | .regexGroup => .regexGroup settings.group

/-- Makes the tokenizer that the settings describe, by a given way to compile patterns. -/
def tokenizerWith (compiler : Pattern.Compiler) (cache : PatternCache) (settings : Settings) :
    Except PatternFault Tokenizer × PatternCache :=
  Tokenizer.makeWith compiler cache settings.tokenizerStrategy settings.pattern

/-- Makes the tokenizer that the settings describe. -/
def tokenizer (cache : PatternCache) (settings : Settings) :
    Except PatternFault Tokenizer × PatternCache :=
  settings.tokenizerWith Pattern.read? cache

end Settings

end CommandGrammar
