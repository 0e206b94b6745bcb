import CommandGrammar.Decimal.Shortest
import CommandGrammar.Text.Quoted

/-! # Values that do not fit a setting

A settings file can be well-formed and still hold a value of the wrong kind. A misfit says what
was found and what the setting takes.
-/

namespace CommandGrammar.Settings

/-- What stands in the file where a setting wants something else. -/
inductive Found where
  | integer (value : Int)
  | floating (value : Decimal.Binary64)
  | text (value : String)
  | boolean (value : Bool)
  | sequence
  | map
deriving DecidableEq, Repr

namespace Found

/-- How a found value is described. -/
def display : Found → String
  | .integer value => "integer `" ++ toString value ++ "`"
  | .floating value => "floating point `" ++ value.display ++ "`"
  | .text value => "string " ++ Text.quoted value
  | .boolean value => "boolean `" ++ (if value then "true" else "false") ++ "`"
  | .sequence => "sequence"
  | .map => "map"

end Found

/-- Why a value does not fit. -/
inductive Misfit where
  /-- A name that is not among the known ones. -/
  | unknownVariant (given : String) (known : List String)
  /-- A value of another kind. -/
  | wrongKind (found : Found) (expected : String)
  /-- A value of the right kind that is out of range. -/
  | wrongValue (found : Found) (expected : String)
deriving DecidableEq, Repr

namespace Misfit

/-- The sentence that reports a misfit. -/
def message : Misfit → String
  | .unknownVariant given known =>
    "unknown variant `" ++ given ++ "`, expected one of " ++
      ", ".intercalate (known.map fun name => "`" ++ name ++ "`")
  | .wrongKind found expected => "invalid type: " ++ found.display ++ ", expected " ++ expected
  | .wrongValue found expected => "invalid value: " ++ found.display ++ ", expected " ++ expected

end Misfit

end CommandGrammar.Settings
