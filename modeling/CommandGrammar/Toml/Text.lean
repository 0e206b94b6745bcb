/-! # Texts and keys

Texts stand in double quotes, with escapes, or in single quotes, as they are; three quotes allow
several lines. Control characters other than the tabulator never stand for themselves. A key is
a bare word or a text on one line.
-/

namespace CommandGrammar.Toml

/-- Spaces and tabulators. -/
def isBlank (c : Char) : Bool := c == ' ' || c == '\t'

/-- Whether a character may stand in a comment or a text by itself. -/
def isPlain (c : Char) : Bool := c == '\t' || (decide (' ' ≤ c) && c != '\x7f')

/-- Whether a character may stand in a bare key. -/
def isBareKey (c : Char) : Bool := c.isAlphanum || c == '-' || c == '_'

/-- The text behind blanks. -/
def skipBlanks (rest : List Char) : List Char := rest.dropWhile isBlank

/-- The text behind a line end, if there is one at the start. -/
def skipLineEnd? : List Char → Option (List Char)
  | '\n' :: rest | '\r' :: '\n' :: rest => some rest
  | _ => none

/-- The text behind a line end, or all of it. -/
def skipLineEnd (rest : List Char) : List Char := (skipLineEnd? rest).getD rest

namespace Text

/-- The value of a hexadecimal digit. -/
def hexValue? (c : Char) : Option Nat :=
  if c.isDigit then some (c.toNat - '0'.toNat)
  else if 'a' ≤ c ∧ c ≤ 'f' then some (c.toNat - 'a'.toNat + 10)
  else if 'A' ≤ c ∧ c ≤ 'F' then some (c.toNat - 'A'.toNat + 10)
  else none

/-- The character with a hexadecimal number, unless there is no such character. -/
def codePoint? (digits : List Char) : Option Char := do
  let number ← digits.foldlM (fun value c => (hexValue? c).map (value * 16 + ·)) 0
  if number.isValidChar then some (Char.ofNat number) else none

/-- The character of a short escape. -/
def shortEscape? : Char → Option Char
  | 'b' => some '\x08'
  | 't' => some '\t'
  | 'n' => some '\n'
  | 'f' => some '\x0c'
  | 'r' => some '\r'
  | '"' => some '"'
  | '\\' => some '\\'
  | _ => none

/-- Whether a backslash is the last thing on its line. -/
def endsLine (behind : List Char) : Bool := (skipLineEnd? (skipBlanks behind)).isSome

/-- Puts a character in front of the text that was read. -/
def put (c : Char) (read : List Char × List Char) : List Char × List Char :=
  (c :: read.1, read.2)

/-- The quotes behind three closing ones belong to the text, up to two of them. -/
def extraQuotes (quote : Char) : List Char → List Char × List Char
  | c :: d :: rest =>
    if c = quote then if d = quote then ([c, d], rest) else ([c], d :: rest)
    else ([], c :: d :: rest)
  | [c] => if c = quote then ([c], []) else ([], [c])
  | [] => ([], [])

/-- Reads a text with escapes on one line, up to its closing quote. -/
def readEscaped : List Char → Option (List Char × List Char)
  | '\\' :: 'u' :: a :: b :: c :: d :: rest => do
    put (← codePoint? [a, b, c, d]) (← readEscaped rest)
  | '\\' :: 'U' :: a :: b :: c :: d :: e :: f :: g :: h :: rest => do
    put (← codePoint? [a, b, c, d, e, f, g, h]) (← readEscaped rest)
  | '\\' :: c :: rest => do put (← shortEscape? c) (← readEscaped rest)
  | '"' :: rest => some ([], rest)
  | c :: rest => if c ≠ '\\' ∧ isPlain c then (readEscaped rest).map (put c) else none
  | [] => none

/-- Reads a text without escapes on one line, up to its closing quote. -/
def readVerbatim : List Char → Option (List Char × List Char)
  | '\'' :: rest => some ([], rest)
  | c :: rest => if isPlain c then (readVerbatim rest).map (put c) else none
  | [] => none

/-- Reads a text with escapes on several lines, up to its three closing quotes. A backslash at
the end of a line leaves out all white space up to the next visible character; `skipping` says
that this is going on. -/
def readEscapedLines : Bool → List Char → Option (List Char × List Char)
  | skipping, '\r' :: '\n' :: rest | skipping, '\n' :: rest =>
    if skipping then readEscapedLines true rest
    else (readEscapedLines false rest).map (put '\n')
  | _, '\\' :: 'u' :: a :: b :: c :: d :: rest => do
    put (← codePoint? [a, b, c, d]) (← readEscapedLines false rest)
  | _, '\\' :: 'U' :: a :: b :: c :: d :: e :: f :: g :: h :: rest => do
    put (← codePoint? [a, b, c, d, e, f, g, h]) (← readEscapedLines false rest)
  | _, '\\' :: c :: rest =>
    if endsLine (c :: rest) then readEscapedLines true (c :: rest)
    else do put (← shortEscape? c) (← readEscapedLines false rest)
  | _, '"' :: '"' :: '"' :: rest => some (extraQuotes '"' rest)
  | skipping, c :: rest =>
    if skipping ∧ isBlank c then readEscapedLines true rest
    else if c ≠ '\\' ∧ isPlain c then (readEscapedLines false rest).map (put c)
    else none
  | _, [] => none

/-- Reads a text without escapes on several lines, up to its three closing quotes. -/
def readVerbatimLines : List Char → Option (List Char × List Char)
  | '\r' :: '\n' :: rest | '\n' :: rest => (readVerbatimLines rest).map (put '\n')
  | '\'' :: '\'' :: '\'' :: rest => some (extraQuotes '\'' rest)
  | c :: rest => if isPlain c then (readVerbatimLines rest).map (put c) else none
  | [] => none

/-- Reads a text that begins with a quote. A line end right behind three opening quotes is left
out. -/
def read? (rest : List Char) : Option (String × List Char) :=
  let body :=
    match rest with
    | '"' :: '"' :: '"' :: rest => readEscapedLines false (skipLineEnd rest)
    | '"' :: rest => readEscaped rest
    | '\'' :: '\'' :: '\'' :: rest => readVerbatimLines (skipLineEnd rest)
    | '\'' :: rest => readVerbatim rest
    | _ => none
  body.map fun (text, rest) => (String.ofList text, rest)

end Text

namespace Key

/-- How many parts a dotted key may have. -/
def partLimit : Nat := 79

/-- Reads one part of a key. -/
def readPart? : List Char → Option (String × List Char)
  | '"' :: rest => (Text.readEscaped rest).map fun (part, rest) => (String.ofList part, rest)
  | '\'' :: rest => (Text.readVerbatim rest).map fun (part, rest) => (String.ofList part, rest)
  | rest =>
    let part := rest.takeWhile isBareKey
    if part.isEmpty then none else some (String.ofList part, rest.dropWhile isBareKey)

/-- Reads the parts of a key and the blanks around them; the fuel bounds their number. -/
def readParts? : Nat → List Char → Option (List String × List Char)
  | 0, _ => none
  | fuel + 1, rest => do
    let (part, rest) ← readPart? (skipBlanks rest)
    match skipBlanks rest with
    | '.' :: rest => do
      let (parts, rest) ← readParts? fuel rest
      some (part :: parts, rest)
    | rest => some ([part], rest)

/-- Reads a key: the parts before the last one, the last one, and what is behind it. -/
def read? (rest : List Char) : Option (List String × String × List Char) := do
  let (parts, rest) ← readParts? partLimit rest
  some (parts.dropLast, ← parts.getLast?, rest)

end Key

end CommandGrammar.Toml
