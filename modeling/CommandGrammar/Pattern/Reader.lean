import CommandGrammar.Pattern.Bracket
import CommandGrammar.Pattern.Expr

/-! # Reading patterns

The notation of patterns: primitives, classes, groups with their flags, choices and repetitions.
Reading yields a simplified expression. Constructions may nest 250 deep.
-/

namespace CommandGrammar

/-- One member of a sequence that is being read. -/
structure Member where
  expr : Expr
  /-- How deep constructions are nested in the member. -/
  depth : Nat := 0
  /-- A setting of flags is a member that cannot be repeated. -/
  repeatable : Bool := true
deriving DecidableEq, Repr

/-- An expression and how deep constructions are nested in its notation. -/
structure MeasuredExpr where
  expr : Expr
  depth : Nat
deriving DecidableEq, Repr

/-- What is being read: what is left of the text, how many groups were opened so far, and the
names that groups have. -/
structure Reading where
  rest : List Char
  groups : Nat := 0
  names : List (List Char) := []
deriving DecidableEq, Repr

/-- The opening of a parenthesis. -/
inductive Opening where
  /-- Sets flags for what follows in the surrounding group. -/
  | directive (flags : Flags)
  /-- Opens a group without a number, with flags of its own. -/
  | plain (flags : Flags)
  /-- Opens a numbered group. -/
  | numbered
deriving DecidableEq, Repr

namespace Reader

/-- How deep constructions may nest. -/
def depthLimit : Nat := 250

/-- The largest count of a repetition. -/
def countLimit : Nat := Nat.pow 2 32 - 1

/-- The members of a sequence as one expression. Several members are one construction more. -/
def sequenceOf : List Member → MeasuredExpr
  | [] => ⟨.empty, 0⟩
  | [member] => ⟨member.expr, member.depth⟩
  | members =>
    ⟨.sequence (members.map (·.expr)), (members.map (·.depth)).foldl max 0 + 1⟩

/-- The branches of a choice as one expression. Several branches are one construction more. -/
def choiceOf : List MeasuredExpr → MeasuredExpr
  | [branch] => branch
  | branches =>
    ⟨.choice (branches.map (·.expr)), (branches.map (·.depth)).foldl max 0 + 1⟩

/-- Repeats the last member of a sequence. -/
def repeatLast (flags : Flags) (members : List Member) (least : Nat) (most : Option Nat)
    (greedy : Bool) : Except Malformation (List Member) :=
  match members.getLast? with
  | none => .error .nothingToRepeat
  | some member =>
    if member.repeatable then
      .ok (members.dropLast ++
        [{ expr := .repeatExpr member.expr least most (greedy != flags.swapGreed)
           depth := member.depth + 1 }])
    else .error .nothingToRepeat

/-- The digits of a count, read onto a value; `any` says whether there was one. -/
def readCountDigits (flags : Flags) : Nat → Bool → Nat → List Char → Bool × Nat × List Char
  | fuel + 1, any, value, c :: rest =>
    if c.isDigit then
      readCountDigits flags fuel true (value * 10 + (c.toNat - '0'.toNat)) (flags.skipBlanks rest)
    else (any, value, c :: rest)
  | _, any, value, rest => (any, value, rest)

/-- Reads a count with the white space around it; no digits are no count. -/
def readCount (flags : Flags) (rest : List Char) :
    Except Malformation (Option Nat × List Char) :=
  let (any, value, rest) :=
    readCountDigits flags rest.length false 0 (rest.dropWhile Unicode.isWhiteSpace)
  let rest := rest.dropWhile Unicode.isWhiteSpace
  if !any then .ok (none, rest)
  else if value ≤ countLimit then .ok (some value, rest)
  else .error .countTooLarge

/-- Reads a counted repetition behind its opening brace: the least count, the greatest count if
there is one, and what is behind the closing brace. -/
def readCounts (flags : Flags) (rest : List Char) :
    Except Malformation (Nat × Option Nat × List Char) := do
  let opened := flags.skipBlanks rest
  if opened.isEmpty then .error .unclosedCount
  let (first, rest) ← readCount flags opened
  let (least, most, rest) ←
    match rest with
    | ',' :: rest =>
      match flags.skipBlanks rest with
      | [] => Except.error Malformation.unclosedCount
      | '\x7d' :: rest =>
        match first with
        | some least => .ok (least, none, '\x7d' :: rest)
        | none => .error .missingCount
      | rest => do
        let some least := first | .error .missingCount
        let (second, rest) ← readCount flags rest
        match second with
        | some most => .ok (least, some most, rest)
        | none => .error .missingCount
    | rest =>
      match first with
      | some count => .ok (count, some count, rest)
      | none => if rest.isEmpty then .error .unclosedCount else .error .missingCount
  match rest with
  | '\x7d' :: rest =>
    if (most.map fun most => decide (least ≤ most)).getD true then .ok (least, most, rest)
    else .error .emptyCountRange
  | _ => .error .unclosedCount

/-- A question mark behind a repetition makes it reluctant. -/
def readGreed : List Char → Bool × List Char
  | '?' :: rest => (false, rest)
  | rest => (true, rest)

/-- Whether a character can stand in the name of a group. -/
def isNameChar (first : Bool) (c : Char) : Bool :=
  if first then c == '_' || Unicode.isAlphabetic c
  else c == '_' || c == '.' || c == '[' || c == ']' || Unicode.isAlphanumeric c

/-- Reads the name of a group up to its angle bracket. -/
def readName (names : List (List Char)) : List Char → List Char →
    Except Malformation (List Char × List Char)
  | _, [] => .error .invalidGroupName
  | name, c :: rest =>
    if c = '>' then
      if name.isEmpty then .error .invalidGroupName
      else if names.contains name then .error .repeatedGroupName
      else .ok (name, rest)
    else if isNameChar name.isEmpty c then readName names (name ++ [c]) rest
    else .error .invalidGroupName

/-- Opens a numbered group with a name. -/
def openNamed (reading : Reading) (rest : List Char) :
    Except Malformation (Opening × Reading) := do
  let (name, rest) ← readName reading.names [] rest
  .ok (.numbered, { rest, groups := reading.groups + 1, names := name :: reading.names })

/-- Reads the opening of a parenthesis. -/
def readOpening (flags : Flags) (reading : Reading) (rest : List Char) :
    Except Malformation (Opening × Reading) :=
  match flags.skipBlanks rest with
  | '?' :: '=' :: _ | '?' :: '!' :: _ | '?' :: '<' :: '=' :: _ | '?' :: '<' :: '!' :: _ =>
    .error .unsupported
  | '?' :: 'P' :: '<' :: rest | '?' :: '<' :: rest => openNamed reading rest
  | '?' :: rest => do
    let (written, terminator, rest) ← Flags.read [] rest
    let reading := { reading with rest }
    let inner := flags.apply true written
    if terminator = ':' then .ok (.plain inner, reading)
    else if written.isEmpty then .error .nothingToRepeat
    else .ok (.directive inner, reading)
  | rest => .ok (.numbered, { reading with rest, groups := reading.groups + 1 })

/-- The expression of a character under the flags. -/
def charExpr (flags : Flags) (c : Char) : Except Malformation Expr :=
  if !flags.unicode && decide (128 ≤ c.toNat) then .error .outsideAscii
  else if flags.ignoreCase && 1 < ((Unicode.caseVariants c.toNat).eraseDups).length then
    .ok (.oneOf (Bracket.fold flags (.single c)))
  else .ok (.literal [c])

/-- The expression of a set, which is a literal if it is written as one character. -/
def setExpr (flags : Flags) (set : CharSet) : Except Malformation Expr :=
  match set.single? with
  | some c => .ok (.literal [c])
  | none =>
    if flags.unicode || Bracket.withinAscii set then .ok (.oneOf set) else .error .outsideAscii

/-- The expression of a primitive under the flags. -/
def primitiveExpr (flags : Flags) : Primitive → Except Malformation Expr
  | .char c => charExpr flags c
  | .assertion condition => .ok (.assertion condition)
  | .set members => setExpr flags members

/-- The set of the dot under the flags. -/
def dotSet (flags : Flags) : CharSet :=
  if flags.dotMatchesAll then .property .any
  else if flags.carriageReturn then .compl (.union (.single '\n') (.single '\r'))
  else .compl (.single '\n')

/-- The assertion of a circumflex under the flags. -/
def startAssertion (flags : Flags) : Assertion :=
  if !flags.multiLine then .textStart
  else if flags.carriageReturn then .returnLineStart
  else .lineStart

/-- The assertion of a dollar sign under the flags. -/
def endAssertion (flags : Flags) : Assertion :=
  if !flags.multiLine then .textEnd
  else if flags.carriageReturn then .returnLineEnd
  else .lineEnd

/-- Reads a primitive that begins with the given character. -/
def readPrimitive (flags : Flags) (c : Char) (rest : List Char) :
    Except Malformation (Expr × List Char) :=
  match c with
  | '\\' => do
    let (primitive, rest) ← Primitive.readEscape flags rest
    .ok (← primitiveExpr flags primitive, rest)
  | '.' => do .ok (← setExpr flags (dotSet flags), rest)
  | '^' => .ok (.assertion (startAssertion flags), rest)
  | '$' => .ok (.assertion (endAssertion flags), rest)
  | c => do .ok (← charExpr flags c, rest)

/-- Reads choices up to the end of the text or to a closing parenthesis, which is left. `members`
are those of the current sequence and `branches` are the finished branches before it. The fuel is
the length of the text and one more, since every step consumes a character. -/
def readChoice : Nat → Flags → List MeasuredExpr → List Member → Reading →
    Except Malformation (MeasuredExpr × Reading)
  | 0, _, _, _, _ => .error .nestedTooDeeply
  | fuel + 1, flags, branches, members, reading =>
    let push (member : Member) (reading : Reading) :=
      readChoice fuel flags branches (members ++ [member]) reading
    let repeated (least : Nat) (most : Option Nat) (rest : List Char) := do
      let (greedy, rest) := readGreed rest
      let members ← repeatLast flags members least most greedy
      readChoice fuel flags branches members { reading with rest }
    let finish (rest : List Char) :=
      Except.ok (choiceOf (branches ++ [sequenceOf members]), { reading with rest })
    match flags.skipBlanks reading.rest with
    | [] => finish []
    | ')' :: rest => finish (')' :: rest)
    | '|' :: rest =>
      readChoice fuel flags (branches ++ [sequenceOf members]) [] { reading with rest }
    | '(' :: rest => do
      let (opening, opened) ← readOpening flags reading rest
      let inside (inner : Flags) (wrap : Expr → Expr) := do
        let (body, closed) ← readChoice fuel inner [] [] opened
        match closed.rest with
        | ')' :: rest =>
          push { expr := wrap body.expr, depth := body.depth + 1 } { closed with rest }
        | _ => .error .unclosedGroup
      match opening with
      | .directive inner =>
        readChoice fuel inner branches
          (members ++ [{ expr := .empty, repeatable := false }]) opened
      | .plain inner => inside inner id
      | .numbered => inside flags (.group opened.groups)
    | '[' :: rest => do
      let (closed, rest) ← Bracket.read flags rest
      push { expr := ← setExpr flags closed.set, depth := closed.depth } { reading with rest }
    | '?' :: rest => repeated 0 (some 1) rest
    | '*' :: rest => repeated 0 none rest
    | '+' :: rest => repeated 1 none rest
    | '\x7b' :: rest => do
      if members.isEmpty then .error .nothingToRepeat
      let (least, most, rest) ← readCounts flags rest
      repeated least most (flags.skipBlanks rest)
    | c :: rest => do
      let (expr, rest) ← readPrimitive flags c rest
      push { expr } { reading with rest }

/-- The expression of a pattern text. -/
def read (text : List Char) : Except Malformation Expr := do
  let (choice, reading) ← readChoice (text.length + 1) {} [] [] { rest := text }
  if !reading.rest.isEmpty then .error .unopenedGroup
  else if depthLimit < choice.depth then .error .nestedTooDeeply
  else .ok choice.expr

end Reader

end CommandGrammar
