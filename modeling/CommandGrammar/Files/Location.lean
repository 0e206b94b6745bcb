import CommandGrammar.Files.Path

/-! # Where settings and logs are kept

Settings and logs have directories of their own below the home directory, which the environment
may move elsewhere. Only absolute paths move them.
-/

namespace CommandGrammar.Files

/-- The directories that the environment names. -/
structure Environment where
  home : String
  settingsHome : Option String := none
  stateHome : Option String := none
deriving DecidableEq, Repr

namespace Environment

/-- The name of the directory and the log of this library. -/
def directoryName : String := "cmdtree"

/-- A directory that the environment names, or the usual one below the home directory. -/
def moved (named : Option String) (usual : String) : String :=
  match named.filter Path.isAbsoluteText with
  | some directory => directory
  | none => usual

/-- The path of the settings file. -/
def settingsPath (environment : Environment) : String :=
  let base := moved environment.settingsHome (Path.joinText environment.home ".config")
  Path.joinText (Path.joinText base directoryName) "config.toml"

/-- The path of the log file. -/
def logPath (environment : Environment) : String :=
  let base := moved environment.stateHome (Path.joinText environment.home ".local/state")
  Path.joinText (Path.joinText base directoryName) "cmdtree.log"

end Environment

end CommandGrammar.Files
