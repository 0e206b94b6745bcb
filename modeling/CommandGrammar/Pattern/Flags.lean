import CommandGrammar.Pattern.Assertion

/-! # Flags of patterns

Flags change how what follows them is read: up to the end of the group that sets them, or inside
the group that carries them.
-/

namespace CommandGrammar

/-- Why a text is no pattern. -/
inductive Malformation where
  | unclosedGroup
  | unopenedGroup
  | unclosedClass
  /-- The ends of an interval are out of order. -/
  | emptyInterval
  /-- An end of an interval is not a single character. -/
  | intervalEnd
  /-- An assertion stands in a class. -/
  | assertionInClass
  /-- A repetition has nothing to repeat. -/
  | nothingToRepeat
  | unclosedCount
  | missingCount
  | countTooLarge
  /-- The least count of a repetition exceeds the greatest. -/
  | emptyCountRange
  | invalidGroupName
  | repeatedGroupName
  | unknownFlag
  | repeatedFlag
  | danglingNegation
  | unknownEscape
  | truncatedEscape
  | invalidCodePoint
  | unknownBoundary
  /-- The name means nothing, or a property that is not known here. -/
  | unknownProperty
  /-- Look-around and references back to a group are not part of the language. -/
  | unsupported
  /-- A character past the seven-bit code where only that code is read. -/
  | outsideAscii
  | nestedTooDeeply
  /-- The text could be read, but what it compiles to would be too large. -/
  | tooLarge
deriving DecidableEq, Repr

/-- One of the flags. -/
inductive Flag where
  | ignoreCase
  /-- Lines have starts and ends. -/
  | multiLine
  /-- The dot matches a line feed. -/
  | dotMatchesAll
  /-- Repetitions are reluctant, and greedy with a question mark. -/
  | swapGreed
  /-- Characters of all scripts are read, and not only those of the seven-bit code. -/
  | unicode
  /-- A carriage return ends a line too. -/
  | carriageReturn
  /-- White space and comments mean nothing. -/
  | verbose
deriving DecidableEq, Repr

namespace Flag

/-- The flag of a letter. -/
def ofLetter? : Char → Option Flag
  | 'i' => some .ignoreCase
  | 'm' => some .multiLine
  | 's' => some .dotMatchesAll
  | 'U' => some .swapGreed
  | 'u' => some .unicode
  | 'R' => some .carriageReturn
  | 'x' => some .verbose
  | _ => none

end Flag

/-- Which flags are set. -/
structure Flags where
  ignoreCase : Bool := false
  multiLine : Bool := false
  dotMatchesAll : Bool := false
  swapGreed : Bool := false
  unicode : Bool := true
  carriageReturn : Bool := false
  verbose : Bool := false
deriving DecidableEq, Repr

namespace Flags

/-- Sets or clears a flag. -/
def assign (flags : Flags) (value : Bool) : Flag → Flags
  | .ignoreCase => { flags with ignoreCase := value }
  | .multiLine => { flags with multiLine := value }
  | .dotMatchesAll => { flags with dotMatchesAll := value }
  | .swapGreed => { flags with swapGreed := value }
  | .unicode => { flags with unicode := value }
  | .carriageReturn => { flags with carriageReturn := value }
  | .verbose => { flags with verbose := value }

/-- Applies flags and negations in the order in which they are written: a negation clears all
flags behind it. -/
def apply (flags : Flags) : Bool → List (Option Flag) → Flags
  | _, [] => flags
  | _, none :: rest => flags.apply false rest
  | value, some flag :: rest => (flags.assign value flag).apply value rest

/-- Reads flag letters and negations up to a colon or a closing parenthesis, which is returned
with what is behind it. No flag and no negation may be written twice, and flags follow a
negation. -/
def read (written : List (Option Flag)) :
    List Char → Except Malformation (List (Option Flag) × Char × List Char)
  | [] => .error .unclosedGroup
  | c :: rest =>
    if c = ':' ∨ c = ')' then
      if written.getLast? = some none then .error .danglingNegation
      else .ok (written, c, rest)
    else if c = '-' then
      if written.contains none then .error .repeatedFlag else read (written ++ [none]) rest
    else
      match Flag.ofLetter? c with
      | none => .error .unknownFlag
      | some flag =>
        if written.contains (some flag) then .error .repeatedFlag
        else read (written ++ [some flag]) rest

/-- Skips a comment: everything up to and with the line feed. -/
def skipComment : List Char → List Char
  | [] => []
  | c :: rest => if c = '\n' then rest else skipComment rest

/-- Skips white space and comments; the fuel bounds the steps. -/
def skipBlanksWithin : Nat → List Char → List Char
  | fuel + 1, c :: rest =>
    if Unicode.isWhiteSpace c then skipBlanksWithin fuel rest
    else if c = '#' then skipBlanksWithin fuel (skipComment rest)
    else c :: rest
  | _, rest => rest

/-- Skips what means nothing under the flags. -/
def skipBlanks (flags : Flags) (rest : List Char) : List Char :=
  if flags.verbose then skipBlanksWithin rest.length rest else rest

end Flags

end CommandGrammar
