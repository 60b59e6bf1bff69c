import ModuleGraph.Path
import ModuleGraph.KeyedSet

/-! # File trees

A `FileView` answers what the graph asks about files: whether a path is a file or a directory, and
which files lie below a directory.  A `FileTree` holds files and directories in memory and answers
by the components of a path alone, so that `..` is a name like any other.  Adding a file adds the
directories above it. -/

namespace ModuleGraph

/-- What can be asked about files. -/
structure FileView where
  isFile : Path → Bool
  isDirectory : Path → Bool
  /-- The files at or below a path, in path order, if they can be listed. -/
  filesBelow? : Path → Option (List Path)

namespace FileView

/-- Whether there is anything at a path. -/
def exists? (v : FileView) (p : Path) : Bool := v.isFile p || v.isDirectory p

end FileView

/-- Files and directories in memory; a file keeps the spelling in which it was first added. -/
structure FileTree where
  files : SortedMap (List Component) Path
  directories : SortedSet (List Component)

namespace FileTree

/-- Nothing at all. -/
def empty : FileTree := ⟨KeyedSet.empty, KeyedSet.empty⟩

/-- A place and the places above it, from the place upwards; the empty path is not among them. -/
def ancestors (place : List Component) : List (List Component) :=
  (List.range place.length).map fun i => place.take (place.length - i)

/-- Adds places until one is there already. -/
def addUntilKnown (known : SortedSet (List Component)) :
    List (List Component) → SortedSet (List Component)
  | [] => known
  | place :: above =>
    if known.contains place then known else addUntilKnown (known.insert place) above

/-- Adds a directory and the directories above it. -/
def addDirectoryAt (t : FileTree) (place : List Component) : FileTree :=
  { t with directories := addUntilKnown t.directories (ancestors place) }

/-- Adds a directory and the directories above it. -/
def addDirectory (t : FileTree) (p : Path) : FileTree := t.addDirectoryAt p.components

/-- The place above, except that nothing is above the root and the empty path. -/
def above? (place : List Component) : Option (List Component) :=
  match place.getLast? with
  | none => none
  | some .root => none
  | some _ => some place.dropLast

/-- Adds a file and the directories above it. -/
def addFile (t : FileTree) (p : Path) : FileTree :=
  let place := p.components
  let t :=
    match above? place with
    | some place => t.addDirectoryAt place
    | none => t
  if t.files.contains place then t else { t with files := t.files.insert (place, p) }

/-- Whether a file has been added at this path. -/
def isFile (t : FileTree) (p : Path) : Bool := t.files.contains p.components

/-- Whether there is a directory at this path. -/
def isDirectory (t : FileTree) (p : Path) : Bool := t.directories.contains p.components

/-- The files at or below a path, in path order. -/
def filesBelow (t : FileTree) (p : Path) : List Path :=
  (t.files.toList.filter fun entry => p.components.isPrefixOf entry.1).map (·.2)

/-- The tree as something to ask about files. -/
def view (t : FileTree) : FileView where
  isFile := t.isFile
  isDirectory := t.isDirectory
  filesBelow? p := some (t.filesBelow p)

end FileTree

end ModuleGraph
