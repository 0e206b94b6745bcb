import CommandGrammar.Pattern.Escape

/-! # Bracketed character classes

A class lists characters, intervals, shorthand sets, named classes and nested classes, and joins
such lists by intersection, difference and symmetric difference from left to right. Beside its
set a class has a depth, which counts the constructions that are nested in it.
-/

namespace CommandGrammar

/-- How two lists of a class are joined. -/
inductive SetOperator where
  | intersection
  | difference
  | symmetricDifference
deriving DecidableEq, Repr

/-- A set together with the depth of its notation. -/
structure Measured where
  set : CharSet
  depth : Nat := 0
deriving DecidableEq, Repr

/-- A class whose opening was read: whether it is complemented, and the characters that stand
for themselves only because they come first. -/
structure OpenedClass where
  negated : Bool
  items : List Measured
  rest : List Char
deriving DecidableEq, Repr

namespace Bracket

/-- The sets with names of their own inside a class. -/
def namedClass? (name : List Char) : Option CharSet :=
  match String.ofList name with
  | "alnum" => some (.unions [.interval '0' '9', .interval 'A' 'Z', .interval 'a' 'z'])
  | "alpha" => some (.union (.interval 'A' 'Z') (.interval 'a' 'z'))
  | "ascii" => some .ascii
  | "blank" => some (.union (.single '\t') (.single ' '))
  | "cntrl" => some (.union (.interval '\x00' '\x1f') (.single '\x7f'))
  | "digit" => some (.interval '0' '9')
  | "graph" => some (.interval '!' '~')
  | "lower" => some (.interval 'a' 'z')
  | "print" => some (.interval ' ' '~')
  | "punct" =>
    some (.unions [.interval '!' '/', .interval ':' '@', .interval '[' '\x60',
      .interval '\x7b' '~'])
  | "space" => some (.union (.interval '\t' '\r') (.single ' '))
  | "upper" => some (.interval 'A' 'Z')
  | "word" =>
    some (.unions [.interval '0' '9', .interval 'A' 'Z', .single '_', .interval 'a' 'z'])
  | "xdigit" => some (.unions [.interval '0' '9', .interval 'A' 'F', .interval 'a' 'f'])
  | _ => none

/-- Closes a set under case if case is ignored. -/
def fold (flags : Flags) (set : CharSet) : CharSet :=
  if flags.ignoreCase then
    if flags.unicode then .caseClosure set else .inter (.caseClosure set) .ascii
  else set

/-- A named class behind an opening bracket, and what is behind it. Anything else there is no
named class but a nested one. -/
def readNamed? (flags : Flags) (rest : List Char) : Option (CharSet × List Char) :=
  match rest with
  | ':' :: inner =>
    let (negated, inner) :=
      match inner with
      | '^' :: inner => (true, inner)
      | inner => (false, inner)
    match inner.dropWhile (· != ':') with
    | ':' :: ']' :: rest =>
      (namedClass? (inner.takeWhile (· != ':'))).map fun set =>
        (Primitive.signed negated (fold flags set), rest)
    | _ => none
  | _ => none

/-- The hyphens that stand for themselves at the start of a class. -/
def readHyphens (flags : Flags) : Nat → List Measured → List Char → List Measured × List Char
  | fuel + 1, items, '-' :: rest =>
    readHyphens flags fuel (items ++ [⟨.single '-', 0⟩]) (flags.skipBlanks rest)
  | _, items, rest => (items, rest)

/-- Reads the opening of a class behind its bracket. Hyphens that come first stand for
themselves, and so does a closing bracket if nothing came before it. -/
def readOpening (flags : Flags) (rest : List Char) : Except Malformation OpenedClass :=
  let (negated, rest) :=
    match flags.skipBlanks rest with
    | '^' :: rest => (true, flags.skipBlanks rest)
    | rest => (false, rest)
  let (items, rest) := readHyphens flags rest.length [] rest
  match rest with
  | [] => .error .unclosedClass
  | ']' :: behind =>
    if items.isEmpty then
      match flags.skipBlanks behind with
      | [] => .error .unclosedClass
      | behind => .ok ⟨negated, [⟨.single ']', 0⟩], behind⟩
    else .ok ⟨negated, items, rest⟩
  | _ => .ok ⟨negated, items, rest⟩

/-- The union of the items of a list. Several items are one construction more than one. -/
def unionOf : List Measured → Measured
  | [] => ⟨.none, 0⟩
  | [item] => item
  | items => ⟨.unions (items.map (·.set)), (items.map (·.depth)).foldl max 0 + 1⟩

/-- Joins two lists; a missing left side leaves the right one as it is. -/
def join (flags : Flags) (left : Option (SetOperator × Measured)) (right : Measured) : Measured :=
  match left with
  | none => right
  | some (operator, left) =>
    let first := fold flags left.set
    let second := fold flags right.set
    let set :=
      match operator with
      | .intersection => CharSet.inter first second
      | .difference => .diff first second
      | .symmetricDifference => .symmDiff first second
    ⟨set, max left.depth right.depth + 1⟩

/-- The set of a class from the set of its lists. -/
def close (flags : Flags) (negated : Bool) (lists : Measured) : Measured :=
  ⟨Primitive.signed negated (fold flags lists.set), lists.depth + 1⟩

/-- The next character behind the current one that means something. -/
def peek (flags : Flags) (rest : List Char) : Option Char :=
  if flags.verbose then (rest.dropWhile Unicode.isWhiteSpace).head? else rest.head?

/-- Reads one end of an interval. -/
def readItem (flags : Flags) : List Char → Except Malformation (Primitive × List Char)
  | [] => .error .unclosedClass
  | '\\' :: rest => Primitive.readEscape flags rest
  | c :: rest => .ok (.char c, rest)

/-- Reads a character, a set or an interval. A hyphen before the closing bracket or before
another hyphen is not the hyphen of an interval. -/
def readRange (flags : Flags) (rest : List Char) :
    Except Malformation (CharSet × List Char) := do
  let (first, rest) ← readItem flags rest
  let alone : Except Malformation CharSet :=
    match first with
    | .char c => .ok (.single c)
    | .set members => .ok members
    | .assertion _ => .error .assertionInClass
  match flags.skipBlanks rest with
  | [] => .error .unclosedClass
  | '-' :: behind =>
    let next := peek flags behind
    if next = some ']' ∨ next = some '-' then
      return (← alone, '-' :: behind)
    else
      match flags.skipBlanks behind with
      | [] => .error .unclosedClass
      | behind =>
        let (last, rest) ← readItem flags behind
        match first, last with
        | .char low, .char high =>
          if low ≤ high then .ok (.interval low high, rest) else .error .emptyInterval
        | _, _ => .error .intervalEnd
  | rest => return (← alone, rest)

/-- Reads the lists of a class up to its closing bracket. `items` are those of the current list
and `left` is what comes before it with the operator between them. The fuel is the length of the
text, since every item has a character. -/
def readLists (flags : Flags) :
    Nat → List Measured → Option (SetOperator × Measured) → List Char →
      Except Malformation (Measured × List Char)
  | 0, _, _, _ => .error .unclosedClass
  | fuel + 1, items, left, rest =>
    let operate (operator : SetOperator) (rest : List Char) :=
      readLists flags fuel [] (some (operator, join flags left (unionOf items))) rest
    match flags.skipBlanks rest with
    | [] => .error .unclosedClass
    | ']' :: rest => .ok (join flags left (unionOf items), rest)
    | '&' :: '&' :: rest => operate .intersection rest
    | '-' :: '-' :: rest => operate .difference rest
    | '~' :: '~' :: rest => operate .symmetricDifference rest
    | '[' :: rest =>
      match readNamed? flags rest with
      | some (set, rest) => readLists flags fuel (items ++ [⟨set, 0⟩]) left rest
      | none => do
        let opened ← readOpening flags rest
        let (lists, rest) ← readLists flags fuel opened.items none opened.rest
        readLists flags fuel (items ++ [close flags opened.negated lists]) left rest
    | rest => do
      let (set, rest) ← readRange flags rest
      readLists flags fuel (items ++ [⟨set, 0⟩]) left rest

/-- Whether the set holds no character past the seven-bit code among those of one byte. -/
def withinAscii (set : CharSet) : Bool :=
  (List.range 128).all fun offset => !set.contains (Char.ofNat (128 + offset))

/-- Reads a class behind its opening bracket. -/
def read (flags : Flags) (rest : List Char) : Except Malformation (Measured × List Char) := do
  let opened ← readOpening flags rest
  let (lists, rest) ← readLists flags (opened.rest.length + 1) opened.items none opened.rest
  let closed := close flags opened.negated lists
  if flags.unicode || withinAscii closed.set then return (closed, rest)
  else .error .outsideAscii

end Bracket

end CommandGrammar
