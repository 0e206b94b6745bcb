import CommandGrammar.Unicode.Category
import CommandGrammar.Unicode.PropertyTable

/-! # Character properties

The yes-or-no questions about a character that patterns and quoted text ask.
-/

namespace CommandGrammar.Unicode

/-- White space in the sense of the standard's property of that name. -/
def isWhiteSpace (c : Char) : Bool := PropertyTable.whiteSpace.contains c.toNat

/-- Characters that a word is made of. -/
def isWord (c : Char) : Bool := PropertyTable.word.contains c.toNat

/-- Decimal digits of any script. -/
def isDecimalDigit (c : Char) : Bool := CategoryTable.decimalNumber.contains c.toNat

/-- Alphabetic characters. -/
def isAlphabetic (c : Char) : Bool := PropertyTable.alphabetic.contains c.toNat

/-- Alphabetic characters and numbers of every kind. -/
def isAlphanumeric (c : Char) : Bool :=
  isAlphabetic c || Category.anyHolds [.decimalNumber, .letterNumber, .otherNumber] c

/-- Characters that can be shown as they are: assigned, and neither a control, a format
character, for private use, nor a separator other than the plain space. -/
def isPrintable (c : Char) : Bool :=
  c == ' ' ||
    !Category.anyHolds
      [.control, .format, .surrogate, .privateUse, .lineSeparator, .paragraphSeparator,
       .spaceSeparator, .unassigned] c

/-- Characters that combine with the one before them. -/
def extendsGrapheme (c : Char) : Bool := PropertyTable.graphemeExtend.contains c.toNat

end CommandGrammar.Unicode
