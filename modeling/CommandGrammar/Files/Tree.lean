import CommandGrammar.Files.Path

/-! # Trees of files

A tree of directories and files, as far as settings and logs need one. A place in it is the list
of the names that lead to it, the last one first; the place without names is the top, where one
stands and which is always there. Paths are followed name by name through directories, so that
what stands before two dots must exist.
-/

namespace CommandGrammar.Files

/-- What is at a place. -/
inductive Entry where
  | directory
  | file (content : ByteArray)

instance : DecidableEq Entry
  | .directory, .directory => isTrue rfl
  | .directory, .file _ => isFalse nofun
  | .file _, .directory => isFalse nofun
  | .file left, .file right =>
    match ByteArray.instDecidableEq left right with
    | isTrue heq => isTrue (congrArg Entry.file heq)
    | isFalse hne => isFalse fun heq => hne (Entry.file.inj heq)

/-- A place, by its name and the names of the directories around it. -/
abbrev Place := List String

/-- A tree. The latest entry of a place counts. -/
structure Tree where
  entries : List (Place × Entry) := []
deriving DecidableEq

namespace Tree

/-- What is at a place. -/
def entry? (tree : Tree) : Place → Option Entry
  | [] => some .directory
  | place => tree.entries.lookup place

/-- Puts an entry at a place. -/
def put (tree : Tree) (place : Place) (entry : Entry) : Tree :=
  ⟨(place, entry) :: tree.entries⟩

/-- Whether a name can be given to an entry. -/
def isName (name : String) : Bool :=
  decide (name.utf8ByteSize ≤ 255) && !name.toList.contains '\x00'

/-- Follows names from a place. There is no place behind anything but a directory. -/
def follow? (tree : Tree) : Place → List String → Option Place
  | place, [] => some place
  | place, name :: rest =>
    if tree.entry? place = some .directory then
      if name = "." then follow? tree place rest
      else if name = ".." then follow? tree place.tail rest
      else if isName name then follow? tree (name :: place) rest
      else none
    else none

/-- The place that a path leads to, whether or not there is an entry. -/
def place? (tree : Tree) (path : Path) : Option Place :=
  if path.isEmpty then none else tree.follow? [] path.names

/-- What a path leads to. -/
def find? (tree : Tree) (path : Path) : Option Entry := do
  let entry ← tree.entry? (← tree.place? path)
  if path.directoryOnly ∧ entry ≠ .directory then none else some entry

/-- Whether there is something at the end of a path. -/
def contains (tree : Tree) (path : Path) : Bool := (tree.find? path).isSome

/-- Whether a path leads to a directory. -/
def isDirectory (tree : Tree) (path : Path) : Bool := tree.find? path = some .directory

/-- The content of the file at the end of a path. -/
def content? (tree : Tree) (path : Path) : Option ByteArray :=
  match tree.find? path with
  | some (.file content) => some content
  | _ => none

/-- Makes a directory at the end of a path unless there is one. -/
def makeDirectory? (tree : Tree) (path : Path) : Option Tree := do
  let place ← tree.place? path
  match tree.entry? place with
  | none => some (tree.put place .directory)
  | some .directory => some tree
  | some (.file _) => none

/-- Makes the directories on the way to a path and at its end, as far as it goes, and says
whether all of them are there. -/
def makeDirectories (tree : Tree) (path : Path) : Tree × Bool :=
  go tree [] path.names
where
  /-- The same behind the names that were followed already. -/
  go (tree : Tree) (followed : List String) : List String → Tree × Bool
    | [] => (tree, true)
    | name :: rest =>
      let followed := followed ++ [name]
      match tree.makeDirectory? { absolute := path.absolute, names := followed } with
      | some tree => go tree followed rest
      | none => (tree, false)

/-- Writes a file, which replaces an earlier one, in a directory that is there. -/
def write? (tree : Tree) (path : Path) (content : ByteArray) : Option Tree := do
  let place ← tree.place? path
  if path.directoryOnly then none
  else
    match tree.entry? place with
    | some .directory => none
    | _ => some (tree.put place (.file content))

end Tree

end CommandGrammar.Files
