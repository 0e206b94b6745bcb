import CommandGrammar.Unicode.CategoryTable

/-! # General categories of characters

Every code point has exactly one general category. The name of a category is its two-letter
code; the one-letter codes name the unions of categories that share a first letter.
-/

namespace CommandGrammar.Unicode

/-- The general categories. -/
inductive Category where
  | uppercaseLetter | lowercaseLetter | titlecaseLetter | modifierLetter | otherLetter
  | nonspacingMark | spacingMark | enclosingMark
  | decimalNumber | letterNumber | otherNumber
  | connectorPunctuation | dashPunctuation | openPunctuation | closePunctuation
  | initialPunctuation | finalPunctuation | otherPunctuation
  | mathSymbol | currencySymbol | modifierSymbol | otherSymbol
  | spaceSeparator | lineSeparator | paragraphSeparator
  | control | format | surrogate | privateUse | unassigned
deriving DecidableEq, Repr

namespace Category

/-- The assigned categories, letters first. -/
def assigned : List Category :=
  [uppercaseLetter, lowercaseLetter, titlecaseLetter, modifierLetter, otherLetter,
   nonspacingMark, spacingMark, enclosingMark,
   decimalNumber, letterNumber, otherNumber,
   connectorPunctuation, dashPunctuation, openPunctuation, closePunctuation,
   initialPunctuation, finalPunctuation, otherPunctuation,
   mathSymbol, currencySymbol, modifierSymbol, otherSymbol,
   spaceSeparator, lineSeparator, paragraphSeparator,
   control, format, surrogate, privateUse]

/-- The table of an assigned category; unassigned code points have no table of their own. -/
def ranges : Category → Ranges
  | uppercaseLetter => CategoryTable.uppercaseLetter
  | lowercaseLetter => CategoryTable.lowercaseLetter
  | titlecaseLetter => CategoryTable.titlecaseLetter
  | modifierLetter => CategoryTable.modifierLetter
  | otherLetter => CategoryTable.otherLetter
  | nonspacingMark => CategoryTable.nonspacingMark
  | spacingMark => CategoryTable.spacingMark
  | enclosingMark => CategoryTable.enclosingMark
  | decimalNumber => CategoryTable.decimalNumber
  | letterNumber => CategoryTable.letterNumber
  | otherNumber => CategoryTable.otherNumber
  | connectorPunctuation => CategoryTable.connectorPunctuation
  | dashPunctuation => CategoryTable.dashPunctuation
  | openPunctuation => CategoryTable.openPunctuation
  | closePunctuation => CategoryTable.closePunctuation
  | initialPunctuation => CategoryTable.initialPunctuation
  | finalPunctuation => CategoryTable.finalPunctuation
  | otherPunctuation => CategoryTable.otherPunctuation
  | mathSymbol => CategoryTable.mathSymbol
  | currencySymbol => CategoryTable.currencySymbol
  | modifierSymbol => CategoryTable.modifierSymbol
  | otherSymbol => CategoryTable.otherSymbol
  | spaceSeparator => CategoryTable.spaceSeparator
  | lineSeparator => CategoryTable.lineSeparator
  | paragraphSeparator => CategoryTable.paragraphSeparator
  | control => CategoryTable.control
  | format => CategoryTable.format
  | surrogate => CategoryTable.surrogate
  | privateUse => CategoryTable.privateUse
  | unassigned => []

/-- Whether a character has the category. -/
def holds (category : Category) (c : Char) : Bool :=
  match category with
  | unassigned => !assigned.any (fun other => other.ranges.contains c.toNat)
  | _ => category.ranges.contains c.toNat

/-- Whether a character has one of the categories. -/
def anyHolds (categories : List Category) (c : Char) : Bool :=
  categories.any (·.holds c)

/-- The two-letter code of a category. -/
def code : Category → String
  | uppercaseLetter => "Lu"
  | lowercaseLetter => "Ll"
  | titlecaseLetter => "Lt"
  | modifierLetter => "Lm"
  | otherLetter => "Lo"
  | nonspacingMark => "Mn"
  | spacingMark => "Mc"
  | enclosingMark => "Me"
  | decimalNumber => "Nd"
  | letterNumber => "Nl"
  | otherNumber => "No"
  | connectorPunctuation => "Pc"
  | dashPunctuation => "Pd"
  | openPunctuation => "Ps"
  | closePunctuation => "Pe"
  | initialPunctuation => "Pi"
  | finalPunctuation => "Pf"
  | otherPunctuation => "Po"
  | mathSymbol => "Sm"
  | currencySymbol => "Sc"
  | modifierSymbol => "Sk"
  | otherSymbol => "So"
  | spaceSeparator => "Zs"
  | lineSeparator => "Zl"
  | paragraphSeparator => "Zp"
  | control => "Cc"
  | format => "Cf"
  | surrogate => "Cs"
  | privateUse => "Co"
  | unassigned => "Cn"

/-- Every category, the unassigned one last. -/
def all : List Category := assigned ++ [unassigned]

end Category

end CommandGrammar.Unicode
