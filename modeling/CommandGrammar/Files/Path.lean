/-! # Paths

A path names a place by the names on the way to it, from the top or from where one stands. Empty
names and single dots on the way mean nothing.
-/

namespace CommandGrammar.Files

/-- A path. -/
structure Path where
  absolute : Bool
  names : List String
  /-- Whether the path ends with a slash or a single dot, and so can only mean a directory. -/
  directoryOnly : Bool := false
deriving DecidableEq, Repr

namespace Path

/-- Whether a path is written from the top. -/
def isAbsoluteText (text : String) : Bool := text.toList.head? == some '/'

/-- Two texts of paths joined: an absolute second one stands alone, and otherwise a slash is put
between them unless the first one ends with a slash or is empty. -/
def joinText (base name : String) : String :=
  if isAbsoluteText name then name
  else if base.isEmpty || base.toList.getLast? == some '/' then base ++ name
  else base ++ "/" ++ name

/-- The pieces of a text between slashes. -/
def pieces : List Char → List (List Char)
  | [] => [[]]
  | c :: rest =>
    match pieces rest with
    | piece :: others => if c = '/' then [] :: piece :: others else (c :: piece) :: others
    | [] => [[c]]

/-- The path that a text writes. A single dot at the very start of a relative path is a name. -/
def ofText (text : String) : Path :=
  let pieces := (pieces text.toList).map String.ofList
  let named (piece : String) : Bool := piece != "" && piece != "."
  let absolute := isAbsoluteText text
  let first := if absolute then [] else (pieces.take 1).filter (· == ".")
  let names := first ++ pieces.filter named
  { absolute, names
    directoryOnly := !names.isEmpty && !(pieces.getLast?.map named).getD false }

/-- The path without its last name; the top and the empty path have none. -/
def parent? (path : Path) : Option Path :=
  if path.names.isEmpty then none
  else some { absolute := path.absolute, names := path.names.dropLast }

/-- Whether a path is without names and relative, and so means nothing. -/
def isEmpty (path : Path) : Bool := !path.absolute && path.names.isEmpty

end Path

end CommandGrammar.Files
