import CommandGrammar.Files.Tree

/-! # Log files

Before anything is logged to a file, its directory is made and the file is created empty, so that
a log never grows over several runs.
-/

namespace CommandGrammar.LogFile

open Files (Path Tree)

/-- Makes the directory of a log and creates the log empty. When that fails, what was made on
the way stays. -/
def prepare (tree : Tree) (path : Path) : Tree :=
  let (tree, ready) :=
    match path.parent? with
    | some parent => tree.makeDirectories parent
    | none => (tree, true)
  if ready then (tree.write? path .empty).getD tree else tree

end CommandGrammar.LogFile
