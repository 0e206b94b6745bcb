import CommandGrammar.Error
import CommandGrammar.Pattern.Reader
import CommandGrammar.Pattern.Search
import Std.Data.ExtTreeMap

/-! # Patterns and their cache

A pattern is a text that was compiled to an expression. Compiling a text twice yields the same
pattern, so patterns are kept under their texts, and the cache is never emptied. Any way to compile
will do for the cache: `Pattern.read?` is the one that is used here, and a library that knows more
properties of characters, or that limits the size of what it compiles, would be another.
-/

namespace CommandGrammar

/-- A pattern text with its expression. -/
structure Pattern where
  source : String
  expr : Expr
deriving DecidableEq, Repr

namespace Pattern

/-- A way to compile pattern texts: the pattern of a text, or why it has none. -/
abbrev Compiler := String → Except Malformation Pattern

/-- Compiles a pattern text by reading it. What is read may have any size: no text is refused
because its expression is too large. Properties of characters are those of `CharProperty`. -/
def read? (source : String) : Except Malformation Pattern :=
  (Reader.read source.toList).map fun expr => { source, expr }

/-- The number of groups, the whole match included. A group that a repetition drops still counts
if a group with a higher number stays. -/
def groupCount (pattern : Pattern) : Nat := pattern.expr.lastGroup + 1

/-- The matches of a pattern in a text, from left to right without overlap. -/
def findAll (pattern : Pattern) (text : List Char) : List Match :=
  Search.findAll text.toArray pattern.expr

end Pattern

/-- The patterns that were compiled, by their texts. -/
structure PatternCache where
  patterns : Std.ExtTreeMap String Pattern := ∅

namespace PatternCache

/-- The cache before anything was compiled. -/
def empty : PatternCache := {}

/-- Whether the pattern of a text was compiled. -/
def contains (cache : PatternCache) (source : String) : Bool := cache.patterns.contains source

/-- The pattern of a text, from the cache or compiled and then kept. A text that does not compile
is not kept. -/
def compile (compiler : Pattern.Compiler) (cache : PatternCache) (source : String) :
    Except PatternFault Pattern × PatternCache :=
  match cache.patterns[source]? with
  | some pattern => (.ok pattern, cache)
  | none =>
    match compiler source with
    | .ok pattern => (.ok pattern, ⟨cache.patterns.insert source pattern⟩)
    | .error _ => (.error (.invalid source), cache)

end PatternCache

end CommandGrammar
