import CommandGrammar.Pattern.CharSet

/-! # Names of character properties

Properties and general categories are named loosely: case, spaces, hyphens and underscores mean
nothing, and a leading "is" is optional. Only the properties of `CharProperty` have names here; the
name of a script, of an age, or of any other property is refused like a name that means nothing.
-/

namespace CommandGrammar.CharProperty

open Unicode (Category)

/-- The name without case, spaces, hyphens, underscores and characters past the seven-bit
code. -/
def plainName (name : List Char) : List Char :=
  (name.filter fun c => decide (c.toNat < 128) && c != ' ' && c != '-' && c != '_').map
    Char.toLower

/-- The name in the form in which names are compared, without a leading "is". -/
def normalName (name : List Char) : String :=
  match plainName name with
  | 'i' :: 's' :: rest =>
    if rest = ['c'] then "isc" else String.ofList rest
  | plain => String.ofList plain

/-- The categories that share a first letter, and the other unions with a name. -/
def categories? (name : String) : Option (List Category) :=
  match name with
  | "l" | "letter" =>
    some [.uppercaseLetter, .lowercaseLetter, .titlecaseLetter, .modifierLetter, .otherLetter]
  | "lc" | "l&" | "casedletter" => some [.uppercaseLetter, .lowercaseLetter, .titlecaseLetter]
  | "m" | "mark" | "combiningmark" => some [.nonspacingMark, .spacingMark, .enclosingMark]
  | "n" | "number" => some [.decimalNumber, .letterNumber, .otherNumber]
  | "p" | "punctuation" | "punct" =>
    some [.connectorPunctuation, .dashPunctuation, .openPunctuation, .closePunctuation,
      .initialPunctuation, .finalPunctuation, .otherPunctuation]
  | "s" | "symbol" => some [.mathSymbol, .currencySymbol, .modifierSymbol, .otherSymbol]
  | "z" | "separator" => some [.spaceSeparator, .lineSeparator, .paragraphSeparator]
  | "c" | "other" => some [.control, .format, .privateUse, .unassigned]
  | "assigned" => some Category.assigned
  | "lu" | "uppercaseletter" => some [.uppercaseLetter]
  | "ll" | "lowercaseletter" => some [.lowercaseLetter]
  | "lt" | "titlecaseletter" => some [.titlecaseLetter]
  | "lm" | "modifierletter" => some [.modifierLetter]
  | "lo" | "otherletter" => some [.otherLetter]
  | "mn" | "nonspacingmark" => some [.nonspacingMark]
  | "mc" | "spacingmark" => some [.spacingMark]
  | "me" | "enclosingmark" => some [.enclosingMark]
  | "nd" | "decimalnumber" | "digit" => some [.decimalNumber]
  | "nl" | "letternumber" => some [.letterNumber]
  | "no" | "othernumber" => some [.otherNumber]
  | "pc" | "connectorpunctuation" => some [.connectorPunctuation]
  | "pd" | "dashpunctuation" => some [.dashPunctuation]
  | "ps" | "openpunctuation" => some [.openPunctuation]
  | "pe" | "closepunctuation" => some [.closePunctuation]
  | "pi" | "initialpunctuation" => some [.initialPunctuation]
  | "pf" | "finalpunctuation" => some [.finalPunctuation]
  | "po" | "otherpunctuation" => some [.otherPunctuation]
  | "sm" | "mathsymbol" => some [.mathSymbol]
  | "sc" | "currencysymbol" => some [.currencySymbol]
  | "sk" | "modifiersymbol" => some [.modifierSymbol]
  | "so" | "othersymbol" => some [.otherSymbol]
  | "zs" | "spaceseparator" => some [.spaceSeparator]
  | "zl" | "lineseparator" => some [.lineSeparator]
  | "zp" | "paragraphseparator" => some [.paragraphSeparator]
  | "cc" | "control" | "cntrl" => some [.control]
  | "cf" | "format" => some [.format]
  | "co" | "privateuse" => some [.privateUse]
  | "cn" | "unassigned" => some [.unassigned]
  | _ => none

/-- The property of a name that stands alone: six properties and the general categories. -/
def ofName? (name : List Char) : Option CharProperty :=
  match normalName name with
  | "any" => some .any
  | "alphabetic" | "alpha" => some .alphabetic
  | "uppercase" | "upper" => some .uppercase
  | "lowercase" | "lower" => some .lowercase
  | "whitespace" | "wspace" | "space" => some .whiteSpace
  | "graphemeextend" | "grext" => some .graphemeExtend
  | other => (categories? other).map .category

/-- The property of a value of a named property. Only the general category has values here; scripts,
script extensions and ages have none. -/
def ofValue? (property value : List Char) : Option CharProperty :=
  match normalName property with
  | "gc" | "generalcategory" =>
    match normalName value with
    | "any" => some .any
    | other => (categories? other).map .category
  | _ => none

/-- The set of a property name as it stands between braces: a name, or a property and a value
that an equals sign, a colon or an unequal sign joins; the last of them complements the set. What
names none of the properties that are known here has no set. -/
def setOfQuery? (query : List Char) : Option CharSet :=
  let beforeSign (sign : Char) := query.takeWhile (· != sign)
  let behindSign (sign : Char) := (query.dropWhile (· != sign)).drop 1
  if hasUnequal query then
    let value := behindSign '='
    (ofValue? (unequalName query) value).map fun named => .compl (.property named)
  else if query.contains ':' then
    (ofValue? (beforeSign ':') (behindSign ':')).map .property
  else if query.contains '=' then
    (ofValue? (beforeSign '=') (behindSign '=')).map .property
  else if normalName query = "ascii" then some .ascii
  else (ofName? query).map .property
where
  /-- Whether an unequal sign occurs. -/
  hasUnequal : List Char → Bool
    | '!' :: '=' :: _ => true
    | _ :: rest => hasUnequal rest
    | [] => false
  /-- What stands before the first unequal sign. -/
  unequalName : List Char → List Char
    | '!' :: '=' :: _ => []
    | c :: rest => c :: unequalName rest
    | [] => []

end CommandGrammar.CharProperty
