import CommandGrammar.Error
import CommandGrammar.Files.Tree
import CommandGrammar.Settings.Reader

/-! # Loading settings

Settings are loaded from a file. Without the file they are the default ones; a file that cannot
be read, or whose text gives no settings, is reported.
-/

namespace CommandGrammar.Settings

open Files (Path Tree)

/-- What a refused text is reported with. -/
def Refusal.misfit? : Refusal → Option Misfit
  | .misfit found => some found
  | .malformed | .strategyShape => none

/-- The settings in the file at a path. -/
def load (tree : Tree) (path : String) : Except SettingsFault Settings :=
  match tree.find? (.ofText path) with
  | none => .ok default
  | some .directory => .error (.unreadable "Is a directory (os error 21)")
  | some (.file content) =>
    match String.fromUTF8? content with
    | none => .error (.unreadable "stream did not contain valid UTF-8")
    | some text => (read text).mapError fun refusal => .rejected path refusal.misfit?

end CommandGrammar.Settings
