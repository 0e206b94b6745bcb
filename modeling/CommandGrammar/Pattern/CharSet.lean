import CommandGrammar.Unicode.CaseFold
import CommandGrammar.Unicode.Property

/-! # Sets of characters

The sets that a pattern can name: intervals, character properties, and what unions,
intersections, complements and case closure make of them. A set is kept as it was written, so
membership follows the construction, and two sets with the same members may differ.
-/

namespace CommandGrammar

/-- The character properties that are known here: a few that a character has or lacks, and the
general categories. Scripts and their extensions, ages, and all other properties of characters, such
as those of emoji and of identifiers, are left out. -/
inductive CharProperty where
  /-- Every character. -/
  | any
  | word
  | decimalDigit
  | whiteSpace
  | alphabetic
  | uppercase
  | lowercase
  | graphemeExtend
  /-- Characters of one of the given general categories. -/
  | category (categories : List Unicode.Category)
deriving DecidableEq, Repr

namespace CharProperty

/-- Whether a character has the property. -/
def holds : CharProperty → Char → Bool
  | .any, _ => true
  | .word, c => Unicode.isWord c
  | .decimalDigit, c => Unicode.isDecimalDigit c
  | .whiteSpace, c => Unicode.isWhiteSpace c
  | .alphabetic, c => Unicode.isAlphabetic c
  | .uppercase, c => Unicode.PropertyTable.uppercase.contains c.toNat
  | .lowercase, c => Unicode.PropertyTable.lowercase.contains c.toNat
  | .graphemeExtend, c => Unicode.extendsGrapheme c
  | .category categories, c => Unicode.Category.anyHolds categories c

end CharProperty

/-- A set of characters, as it was written. -/
inductive CharSet where
  /-- The characters from the first to the last one. -/
  | interval (first last : Char)
  | property (named : CharProperty)
  | compl (set : CharSet)
  | union (left right : CharSet)
  | inter (left right : CharSet)
  /-- The characters that differ from a member at most in case. -/
  | caseClosure (set : CharSet)
deriving DecidableEq, Repr

namespace CharSet

/-- Whether a character is in the set. -/
def contains : CharSet → Char → Bool
  | .interval first last, c => decide (first ≤ c) && decide (c ≤ last)
  | .property named, c => named.holds c
  | .compl set, c => !set.contains c
  | .union left right, c => left.contains c || right.contains c
  | .inter left right, c => left.contains c && right.contains c
  | .caseClosure set, c =>
    (Unicode.caseVariants c.toNat).any fun code => set.contains (Char.ofNat code)

/-- The set of one character. -/
def single (c : Char) : CharSet := .interval c c

/-- The set without members. -/
def none : CharSet := .compl (.property .any)

/-- The union of several sets. -/
def unions : List CharSet → CharSet
  | [] => none
  | [set] => set
  | set :: rest => .union set (unions rest)

/-- The members of the left set that are not in the right one. -/
def diff (left right : CharSet) : CharSet := .inter left (.compl right)

/-- The members of exactly one of the two sets. -/
def symmDiff (left right : CharSet) : CharSet := .union (diff left right) (diff right left)

/-- The one member of a set that is written as a single character. -/
def single? : CharSet → Option Char
  | .interval first last => if first = last then some first else Option.none
  | _ => Option.none

/-- The characters of the seven-bit code. -/
def ascii : CharSet := .interval '\x00' '\x7f'

end CharSet

end CommandGrammar
