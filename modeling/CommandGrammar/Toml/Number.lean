import CommandGrammar.Toml.Text
import CommandGrammar.Toml.Value

/-! # Numbers

Integers are decimal with an optional sign, or hexadecimal, octal or binary behind a mark, and
fit into 64 bits. A fraction or an exponent makes a number a binary floating-point one.
Underscores may stand between digits.
-/

namespace CommandGrammar.Toml.Number

/-- The value of a digit of a base. -/
def digit? (base : Nat) (c : Char) : Option Nat :=
  (Text.hexValue? c).filter (· < base)

/-- The digits at the start of a text, each behind the first with or without an underscore before
it. -/
def readMore (base : Nat) : List Char → List Nat × List Char
  | '_' :: c :: rest =>
    match digit? base c with
    | some digit =>
      let (digits, rest) := readMore base rest
      (digit :: digits, rest)
    | none => ([], '_' :: c :: rest)
  | c :: rest =>
    match digit? base c with
    | some digit =>
      let (digits, rest) := readMore base rest
      (digit :: digits, rest)
    | none => ([], c :: rest)
  | [] => ([], [])

/-- Reads at least one digit. -/
def readDigits? (base : Nat) : List Char → Option (List Nat × List Char)
  | c :: rest => do
    let digit ← digit? base c
    let (digits, rest) := readMore base rest
    some (digit :: digits, rest)
  | [] => none

/-- The number that digits stand for. -/
def ofDigits (base : Nat) (digits : List Nat) : Nat :=
  digits.foldl (fun value digit => value * base + digit) 0

/-- Whether an integer fits into 64 bits. -/
def inRange (value : Int) : Bool := decide (-Int.pow 2 63 ≤ value ∧ value < Int.pow 2 63)

/-- Reads an integer behind the mark of its base. -/
def readMarked? (base : Nat) (rest : List Char) : Option (Value × List Char) := do
  let (digits, rest) ← readDigits? base rest
  let value : Int := ofDigits base digits
  if inRange value then some (.integer value, rest) else none

/-- Reads a sign; nothing counts as plus. -/
def readSign : List Char → Bool × List Char
  | '+' :: rest => (false, rest)
  | '-' :: rest => (true, rest)
  | rest => (false, rest)

/-- Reads the whole part of a decimal, which has no leading zeros. -/
def readWhole? : List Char → Option (List Nat × List Char)
  | '0' :: rest => some ([0], rest)
  | rest => readDigits? 10 rest

/-- Reads a fraction, if there is one, up to its last digit. -/
def readFraction? : List Char → Option (Option (List Nat) × List Char)
  | '.' :: rest => (readDigits? 10 rest).map fun (digits, rest) => (some digits, rest)
  | rest => some (none, rest)

/-- Reads an exponent, if there is one. -/
def readExponent? : List Char → Option (Option Int × List Char)
  | 'e' :: rest | 'E' :: rest => do
    let (negative, rest) := readSign rest
    let (digits, rest) ← readDigits? 10 rest
    let value : Int := ofDigits 10 digits
    some (some (if negative then -value else value), rest)
  | rest => some (none, rest)

/-- Reads the number words behind a sign. -/
def readWord? (negative : Bool) : List Char → Option (Value × List Char)
  | 'i' :: 'n' :: 'f' :: rest => some (.floating (.infinite negative), rest)
  | 'n' :: 'a' :: 'n' :: rest => some (.floating .notANumber, rest)
  | _ => none

/-- Reads a decimal behind its sign. A number that is too large to be finite is refused. -/
def readDecimal? (negative : Bool) (rest : List Char) : Option (Value × List Char) := do
  let (whole, rest) ← readWhole? rest
  let (fraction, rest) ← readFraction? rest
  let (exponent, rest) ← readExponent? rest
  if fraction.isNone ∧ exponent.isNone then
    let value : Int := ofDigits 10 whole
    let value := if negative then -value else value
    if inRange value then some (.integer value, rest) else none
  else
    let fraction := fraction.getD []
    let number :=
      Decimal.Binary64.ofDecimal negative (ofDigits 10 (whole ++ fraction))
        (exponent.getD 0 - fraction.length)
    if number = .infinite false then none else some (.floating number, rest)

/-- Reads a number. -/
def read? : List Char → Option (Value × List Char)
  | '0' :: 'x' :: rest => readMarked? 16 rest
  | '0' :: 'o' :: rest => readMarked? 8 rest
  | '0' :: 'b' :: rest => readMarked? 2 rest
  | rest =>
    let (negative, behind) := readSign rest
    (readWord? negative behind).orElse fun _ => readDecimal? negative behind

end CommandGrammar.Toml.Number
