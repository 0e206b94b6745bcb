import CommandGrammar.Unicode.Property

/-! # Quoted text

A text in quotation marks that stays on one line and shows every character: quotes, backslashes
and the usual control characters have short escapes, and whatever cannot be shown by itself is
written as the hexadecimal number of its code point in braces.
-/

namespace CommandGrammar.Text

/-- One lower case hexadecimal digit. -/
def hexDigit (n : Nat) : Char :=
  if n < 10 then Char.ofNat ('0'.toNat + n) else Char.ofNat ('a'.toNat + (n - 10))

/-- A number in lower case hexadecimal without leading zeros; `fuel` bounds the digits. -/
def hexDigits : Nat → Nat → List Char
  | 0, _ => []
  | fuel + 1, n => if n < 16 then [hexDigit n] else hexDigits fuel (n / 16) ++ [hexDigit (n % 16)]

/-- The number of a code point; eight digits hold every code point. -/
def hexCode (c : Char) : List Char := hexDigits 8 c.toNat

/-- What stands for a character inside quotation marks. -/
def escapeChar (c : Char) : List Char :=
  if c = '\x00' then ['\\', '0']
  else if c = '\t' then ['\\', 't']
  else if c = '\r' then ['\\', 'r']
  else if c = '\n' then ['\\', 'n']
  else if c = '\\' then ['\\', '\\']
  else if c = '"' then ['\\', '"']
  else if Unicode.extendsGrapheme c || !Unicode.isPrintable c then
    ['\\', 'u', '\x7b'] ++ hexCode c ++ ['\x7d']
  else [c]

/-- A text in quotation marks. -/
def quoted (text : String) : String :=
  String.ofList ('"' :: text.toList.flatMap escapeChar ++ ['"'])

/-- A list of texts in brackets, each in quotation marks. -/
def quotedList (texts : List String) : String :=
  "[" ++ ", ".intercalate (texts.map quoted) ++ "]"

end CommandGrammar.Text
