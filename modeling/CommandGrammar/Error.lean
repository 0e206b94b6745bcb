import CommandGrammar.Handle
import CommandGrammar.Settings.Misfit

/-! # Errors

What can go wrong while a grammar is built, a tokenizer is made or settings are read. A command
that matches nothing is an outcome of dispatching and not an error.
-/

namespace CommandGrammar

/-- Why a tokenizer cannot be made from its pattern. -/
inductive PatternFault where
  /-- A literal delimiter without characters. -/
  | emptyDelimiter
  /-- A pattern that does not follow the pattern language. -/
  | invalid (pattern : String)
  /-- A group number that the pattern does not have. -/
  | missingGroup (pattern : String) (group : Nat)
  /-- A fault that a caller describes in its own words. -/
  | described (detail : String)
deriving DecidableEq, Repr

namespace PatternFault

/-- The sentence that reports the fault. -/
def message : PatternFault → String
  | .emptyDelimiter => "Literal delimiter must not be empty"
  | .invalid pattern => "Invalid pattern '" ++ pattern ++ "'"
  | .missingGroup pattern group =>
    "Pattern '" ++ pattern ++ "' has no capture group " ++ toString group
  | .described detail => detail

end PatternFault

/-- Why settings cannot be loaded. -/
inductive SettingsFault where
  /-- The file cannot be read as text. -/
  | unreadable (reason : String)
  /-- The text is not well-formed, or a value in it does not fit. -/
  | rejected (path : String) (misfit : Option Settings.Misfit)
  /-- A fault that a caller describes in its own words. -/
  | described (detail : String)
deriving DecidableEq, Repr

namespace SettingsFault

/-- The sentence that reports the fault, without the place in the file. -/
def message : SettingsFault → String
  | .unreadable reason => "Failed to read config file: " ++ reason
  | .rejected path _ => "Configuration error in " ++ path
  | .described detail => detail

/-- The value that did not fit, when the text itself was well-formed. -/
def misfit? : SettingsFault → Option Settings.Misfit
  | .rejected _ misfit => misfit
  | _ => none

end SettingsFault

/-- Everything that building and configuring can fail with. -/
inductive Error where
  /-- Children of an executable node are given when it is built and never later. -/
  | attachToExecutable (parent : String)
  /-- A capturing node takes its children one by one. -/
  | bulkAttachToCapturing (parent : String)
  | unknownNode (node : NodeRef)
  | unknownStore (store : StoreRef)
  /-- A template needs one callback for each of its executable positions. -/
  | missingCallback (expected provided : Nat)
  | pattern (fault : PatternFault)
  | settings (fault : SettingsFault)
deriving DecidableEq, Repr

namespace Error

/-- The group an error is reported under. -/
def category : Error → String
  | .attachToExecutable _ | .bulkAttachToCapturing _ | .unknownNode _ | .unknownStore _ =>
    "Construction Error"
  | .missingCallback .. => "Template Error"
  | .pattern _ => "Pattern Error"
  | .settings _ => "Configuration Error"

/-- The sentence that reports an error. -/
def message : Error → String
  | .attachToExecutable parent =>
    "Cannot attach children to executable node '" ++ parent ++ "'"
  | .bulkAttachToCapturing parent =>
    "Capturing node '" ++ parent ++ "' only accepts children one at a time; use attach"
  | .unknownNode node => "Unknown node handle " ++ node.display
  | .unknownStore store => "Unknown capture store " ++ store.display
  | .missingCallback expected provided =>
    "Grammar template needs " ++ toString expected ++ " callbacks but " ++ toString provided ++
      " were provided"
  | .pattern fault => "Pattern error: " ++ fault.message
  | .settings fault => "Configuration error: " ++ fault.message

end Error

end CommandGrammar
