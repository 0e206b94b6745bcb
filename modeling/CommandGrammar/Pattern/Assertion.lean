import CommandGrammar.Pattern.CharSet

/-! # Assertions

An assertion matches the empty text at positions that its two neighbours decide: the character
before the position and the one behind it, absent at the ends of the text.
-/

namespace CommandGrammar

/-- Which characters a word is made of when its boundaries are asked for. -/
inductive WordAlphabet where
  /-- The word characters of all scripts. -/
  | unicode
  /-- Letters, digits and the underscore of the seven-bit code. -/
  | ascii
deriving DecidableEq, Repr

namespace WordAlphabet

/-- Whether a neighbour exists and is a word character. -/
def holds (alphabet : WordAlphabet) : Option Char → Bool
  | none => false
  | some c =>
    match alphabet with
    | .unicode => Unicode.isWord c
    | .ascii => c.isAlphanum || c == '_'

end WordAlphabet

/-- A condition on a position. -/
inductive Assertion where
  | textStart
  | textEnd
  /-- Behind a line feed or at the start. -/
  | lineStart
  /-- Before a line feed or at the end. -/
  | lineEnd
  /-- Like `lineStart`, where a carriage return also ends a line and the two together end one. -/
  | returnLineStart
  /-- Like `lineEnd`, where a carriage return also ends a line and the two together end one. -/
  | returnLineEnd
  | wordBoundary (alphabet : WordAlphabet)
  | notWordBoundary (alphabet : WordAlphabet)
  | wordStart (alphabet : WordAlphabet)
  | wordEnd (alphabet : WordAlphabet)
  /-- Not behind a word character. -/
  | wordStartHalf (alphabet : WordAlphabet)
  /-- Not before a word character. -/
  | wordEndHalf (alphabet : WordAlphabet)
deriving DecidableEq, Repr

namespace Assertion

/-- Whether the assertion holds between two neighbours. -/
def holds (assertion : Assertion) (before after : Option Char) : Bool :=
  match assertion with
  | .textStart => before.isNone
  | .textEnd => after.isNone
  | .lineStart => before.isNone || before == some '\n'
  | .lineEnd => after.isNone || after == some '\n'
  | .returnLineStart =>
    before.isNone || before == some '\n' || (before == some '\r' && after != some '\n')
  | .returnLineEnd =>
    after.isNone || after == some '\r' || (after == some '\n' && before != some '\r')
  | .wordBoundary alphabet => alphabet.holds before != alphabet.holds after
  | .notWordBoundary alphabet => alphabet.holds before == alphabet.holds after
  | .wordStart alphabet => !alphabet.holds before && alphabet.holds after
  | .wordEnd alphabet => alphabet.holds before && !alphabet.holds after
  | .wordStartHalf alphabet => !alphabet.holds before
  | .wordEndHalf alphabet => !alphabet.holds after

end Assertion

end CommandGrammar
