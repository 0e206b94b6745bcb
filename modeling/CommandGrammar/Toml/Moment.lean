/-! # Dates and times

A moment is a date, a time, or a date and a time with or without the distance from universal
time. Only its extent in the text matters here; days must exist in their month.
-/

namespace CommandGrammar.Toml.Moment

/-- Reads two digits whose number is within bounds. -/
def readPair? (least most : Nat) : List Char → Option (Nat × List Char)
  | a :: b :: rest =>
    let number := (a.toNat - '0'.toNat) * 10 + (b.toNat - '0'.toNat)
    if a.isDigit ∧ b.isDigit ∧ least ≤ number ∧ number ≤ most then some (number, rest) else none
  | _ => none

/-- Reads one character among the given ones. -/
def skipOne? (among : List Char) : List Char → Option (List Char)
  | c :: rest => if among.contains c then some rest else none
  | [] => none

/-- Whether a year has a leap day. -/
def isLeapYear (year : Nat) : Bool :=
  year % 4 == 0 && (year % 100 != 0 || year % 400 == 0)

/-- The number of days of a month. -/
def daysOf (year month : Nat) : Nat :=
  if month = 2 then if isLeapYear year then 29 else 28
  else if month = 4 ∨ month = 6 ∨ month = 9 ∨ month = 11 then 30
  else 31

/-- The text behind a date. -/
def skipDate? (rest : List Char) : Option (List Char) := do
  let (century, rest) ← readPair? 0 99 rest
  let (inCentury, rest) ← readPair? 0 99 rest
  let (month, rest) ← readPair? 1 12 (← skipOne? ['-'] rest)
  let (_, rest) ← readPair? 1 (daysOf (century * 100 + inCentury) month) (← skipOne? ['-'] rest)
  some rest

/-- The text behind a fraction of a second, or all of it. -/
def skipFraction : List Char → List Char
  | '.' :: c :: rest => if c.isDigit then rest.dropWhile (·.isDigit) else '.' :: c :: rest
  | rest => rest

/-- The text behind a time. A minute may have a leap second. -/
def skipTime? (rest : List Char) : Option (List Char) := do
  let (_, rest) ← readPair? 0 23 rest
  let (_, rest) ← readPair? 0 59 (← skipOne? [':'] rest)
  let (_, rest) ← readPair? 0 60 (← skipOne? [':'] rest)
  some (skipFraction rest)

/-- The text behind a distance from universal time. -/
def skipOffset? : List Char → Option (List Char)
  | 'Z' :: rest | 'z' :: rest => some rest
  | rest => do
    let (_, rest) ← readPair? 0 23 (← skipOne? ['+', '-'] rest)
    let (_, rest) ← readPair? 0 59 (← skipOne? [':'] rest)
    some rest

/-- The text behind a moment. -/
def skip? (rest : List Char) : Option (List Char) :=
  match skipDate? rest with
  | some behindDate =>
    match (skipOne? ['T', 't', ' '] behindDate).bind skipTime? with
    | some behindTime => some ((skipOffset? behindTime).getD behindTime)
    | none => some behindDate
  | none => skipTime? rest

end CommandGrammar.Toml.Moment
