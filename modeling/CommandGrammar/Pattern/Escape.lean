import CommandGrammar.Pattern.Flags
import CommandGrammar.Pattern.Property

/-! # Escapes in patterns

What a backslash and the characters behind it stand for: a character, an assertion or a set.
-/

namespace CommandGrammar

/-- What one primitive of a pattern stands for. -/
inductive Primitive where
  | char (c : Char)
  | assertion (condition : Assertion)
  | set (members : CharSet)
deriving DecidableEq, Repr

namespace Primitive

/-- The value of a hexadecimal digit. -/
def hexValue? (c : Char) : Option Nat :=
  if '0' ≤ c ∧ c ≤ '9' then some (c.toNat - '0'.toNat)
  else if 'a' ≤ c ∧ c ≤ 'f' then some (c.toNat - 'a'.toNat + 10)
  else if 'A' ≤ c ∧ c ≤ 'F' then some (c.toNat - 'A'.toNat + 10)
  else none

/-- The character of a code point, unless the number is too large or a surrogate. -/
def charOfCode? (code : Nat) : Option Char :=
  if code.isValidChar then some (Char.ofNat code) else none

/-- Reads exactly `count` hexadecimal digits onto a value. -/
def readDigits (flags : Flags) : Nat → Nat → List Char → Except Malformation (Nat × List Char)
  | 0, value, rest => .ok (value, rest)
  | _ + 1, _, [] => .error .truncatedEscape
  | count + 1, value, c :: rest =>
    match hexValue? c with
    | none => .error .invalidCodePoint
    | some digit => readDigits flags count (value * 16 + digit) (flags.skipBlanks rest)

/-- Reads hexadecimal digits onto a value up to the closing brace; `any` says whether there was
one. The fuel is the length of the text. -/
def readBraced (flags : Flags) :
    Nat → Bool → Nat → List Char → Except Malformation (Nat × List Char)
  | fuel + 1, any, value, c :: rest =>
    if c = '\x7d' then if any then .ok (value, rest) else .error .invalidCodePoint
    else
      match hexValue? c with
      | none => .error .invalidCodePoint
      | some digit => readBraced flags fuel true (value * 16 + digit) (flags.skipBlanks rest)
  | _, _, _, _ => .error .truncatedEscape

/-- Reads the number of a code point: so many digits, or any number of them in braces. -/
def readCode (flags : Flags) (digits : Nat) (rest : List Char) :
    Except Malformation (Primitive × List Char) := do
  let (code, rest) ←
    match flags.skipBlanks rest with
    | [] => .error .truncatedEscape
    | '\x7b' :: inner => readBraced flags inner.length false 0 (flags.skipBlanks inner)
    | digitsAhead => readDigits flags digits 0 digitsAhead
  match charOfCode? code with
  | some c => .ok (.char c, rest)
  | none => .error .invalidCodePoint

/-- The characters up to the closing brace and what is behind it. -/
def readBracedName (flags : Flags) :
    Nat → List Char → List Char → Except Malformation (List Char × List Char)
  | fuel + 1, name, c :: rest =>
    if c = '\x7d' then .ok (name, rest)
    else readBracedName flags fuel (name ++ [c]) (flags.skipBlanks rest)
  | _, _, _ => .error .truncatedEscape

/-- The set, or its complement. -/
def signed (negated : Bool) (set : CharSet) : CharSet := if negated then .compl set else set

/-- The set of a property under the flags. Case is ignored before the complement is taken. -/
def propertySet (flags : Flags) (negated : Bool) (set : Option CharSet) :
    Except Malformation CharSet :=
  match set with
  | none => .error .unknownProperty
  | some set =>
    if !flags.unicode then .error .outsideAscii
    else
      match set with
      | .compl inner =>
        let folded := if flags.ignoreCase then .caseClosure inner else inner
        .ok (signed (!negated) folded)
      | plain => .ok (signed negated (if flags.ignoreCase then .caseClosure plain else plain))

/-- Reads the name of a property: one letter, or a name in braces. -/
def readProperty (flags : Flags) (negated : Bool) (rest : List Char) :
    Except Malformation (Primitive × List Char) :=
  match flags.skipBlanks rest with
  | [] => .error .truncatedEscape
  | '\x7b' :: inner => do
    let (name, rest) ← readBracedName flags (inner.length + 1) [] (flags.skipBlanks inner)
    let set ← propertySet flags negated (CharProperty.setOfQuery? name)
    .ok (.set set, rest)
  | c :: rest => do
    if c = '\\' then .error .unknownProperty
    let set ← propertySet flags negated ((CharProperty.ofName? [c]).map .property)
    .ok (.set set, flags.skipBlanks rest)

/-- The digits, white space characters and word characters under the flags. -/
def shorthandSet (flags : Flags) : Char → CharSet
  | 'd' => if flags.unicode then .property .decimalDigit else .interval '0' '9'
  | 's' =>
    if flags.unicode then .property .whiteSpace
    else .union (.interval '\t' '\r') (.single ' ')
  | _ =>
    if flags.unicode then .property .word
    else .unions [.interval '0' '9', .interval 'A' 'Z', .single '_', .interval 'a' 'z']

/-- The word alphabet under the flags. -/
def alphabet (flags : Flags) : WordAlphabet := if flags.unicode then .unicode else .ascii

/-- Characters of the names of special word boundaries. -/
def isBoundaryChar (c : Char) : Bool := c.isAlpha || c == '-'

/-- The characters of a boundary name and what is behind them. -/
def readBoundaryName (flags : Flags) : Nat → List Char → List Char → List Char × List Char
  | fuel + 1, name, c :: rest =>
    if isBoundaryChar c then readBoundaryName flags fuel (name ++ [c]) (flags.skipBlanks rest)
    else (name, c :: rest)
  | _, name, rest => (name, rest)

/-- Reads what can follow the letter of a word boundary: a special boundary is named in braces;
braces that begin otherwise count a repetition and are left alone. -/
def readBoundary (flags : Flags) (rest : List Char) :
    Except Malformation (Primitive × List Char) :=
  let plain := Primitive.assertion (.wordBoundary (alphabet flags))
  match rest with
  | '\x7b' :: inner =>
    match flags.skipBlanks inner with
    | [] => .error .unclosedCount
    | c :: ahead =>
      if !isBoundaryChar c then .ok (plain, rest)
      else
        match readBoundaryName flags (ahead.length + 1) [] (c :: ahead) with
        | (name, '\x7d' :: rest) =>
          match String.ofList name with
          | "start" => .ok (.assertion (.wordStart (alphabet flags)), rest)
          | "end" => .ok (.assertion (.wordEnd (alphabet flags)), rest)
          | "start-half" => .ok (.assertion (.wordStartHalf (alphabet flags)), rest)
          | "end-half" => .ok (.assertion (.wordEndHalf (alphabet flags)), rest)
          | _ => .error .unknownBoundary
        | _ => .error .unknownBoundary
  | _ => .ok (plain, rest)

/-- Characters that stand for themselves behind a backslash: all of the seven-bit code but
letters, digits and angle brackets. -/
def isEscapable (c : Char) : Bool :=
  decide (c.toNat < 128) && !c.isAlphanum && c != '<' && c != '>'

/-- Reads what follows a backslash. -/
def readEscape (flags : Flags) : List Char → Except Malformation (Primitive × List Char)
  | [] => .error .truncatedEscape
  | c :: rest =>
    if c.isDigit then .error .unsupported
    else if c = 'x' then readCode flags 2 rest
    else if c = 'u' then readCode flags 4 rest
    else if c = 'U' then readCode flags 8 rest
    else if c = 'p' ∨ c = 'P' then readProperty flags (c == 'P') rest
    else if c = 'd' ∨ c = 's' ∨ c = 'w' then .ok (.set (shorthandSet flags c), rest)
    else if c = 'D' ∨ c = 'S' ∨ c = 'W' then
      .ok (.set (.compl (shorthandSet flags c.toLower)), rest)
    else if isEscapable c then .ok (.char c, rest)
    else
      match c with
      | 'a' => .ok (.char '\x07', rest)
      | 'f' => .ok (.char '\x0c', rest)
      | 't' => .ok (.char '\t', rest)
      | 'n' => .ok (.char '\n', rest)
      | 'r' => .ok (.char '\r', rest)
      | 'v' => .ok (.char '\x0b', rest)
      | 'A' => .ok (.assertion .textStart, rest)
      | 'z' => .ok (.assertion .textEnd, rest)
      | 'b' => readBoundary flags rest
      | 'B' => .ok (.assertion (.notWordBoundary (alphabet flags)), rest)
      | '<' => .ok (.assertion (.wordStart (alphabet flags)), rest)
      | '>' => .ok (.assertion (.wordEnd (alphabet flags)), rest)
      | _ => .error .unknownEscape

end Primitive

end CommandGrammar
