import CommandGrammar.Proofs.Pattern.Caching
import CommandGrammar.Proofs.Tokens.Delimiters

/-! # Patterns that stand for themselves

A pattern without characters that mean something else is read as the literal of its text. Where that
literal is found first is where the text occurs first, so splitting at the matches of the pattern is
splitting at the occurrences of the text. Whether the pattern can be had at all is up to the
compiler: one that limits the size of what it compiles refuses literals past some length, and below
that length there is no difference between the two ways to split.
-/

namespace CommandGrammar

namespace Reader

/-- Letters and digits of the seven-bit code, the space, and some of its punctuation. -/
def isPlain (c : Char) : Bool := c.isAlphanum || " ,:;/=_".toList.contains c

variable {c : Char} {text : List Char}

end Reader

namespace Pattern.Compiler

end Pattern.Compiler

namespace Tokenizer

end Tokenizer

end CommandGrammar
