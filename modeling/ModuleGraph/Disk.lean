import ModuleGraph.FileTree
import ModuleGraph.Text.Blank

/-! # Files on a disk

A `Disk` holds files and directories by the names that lead to them from the root, and a working
directory from which relative paths start.  Unlike in a `FileTree`, a path is followed step by
step: `..` goes up, every step has to start in a directory, and so has a slash at the end.  Names
and paths have a greatest length.  What is made is made step by step too, so that a path through
directories that are still missing makes them, and a failure leaves what has been made before. -/

namespace ModuleGraph

/-- The names that lead to something from the root. -/
abbrev Place := List String

structure Disk where
  files : SortedSet Place
  directories : SortedSet Place
  workingDirectory : Place

namespace Disk

/-- Why something is not found or not made. -/
inductive Obstacle where
  /-- Something on the way is missing. -/
  | missing
  /-- There is something already. -/
  | taken
  /-- A file is in the way, or a name or path cannot be. -/
  | impossible
  deriving DecidableEq

/-- A disk with an empty working directory. -/
def empty (workingDirectory : Place) : Disk where
  files := KeyedSet.empty
  directories := KeyedSet.ofList
    ((List.range (workingDirectory.length + 1)).map workingDirectory.take)
  workingDirectory := workingDirectory

/-- The greatest length of a name in bytes. -/
def longestName : Nat := 255

/-- The greatest length of a path in bytes. -/
def longestPath : Nat := 4095

/-- Whether a path can be a path on a disk at all. -/
def isPossible (p : Path) : Bool :=
  p.text.utf8ByteSize ≤ longestPath && !p.text.toList.contains '\x00'

/-- The pieces of a path between slashes; the first is empty if the path begins at the root. -/
def pieces (p : Path) : List String :=
  (Text.splitWhere (· == '/') p.text.toList).map String.ofList

/-- Whether a piece leads nowhere else. -/
def isIdle (piece : String) : Bool := piece == "" || piece == "."

/-- The pieces without those at the end that satisfy `p`. -/
def trimEnd (p : String → Bool) (pieces : List String) : List String :=
  (pieces.reverse.dropWhile p).reverse

/-- Whether there is something at a place. -/
def has (d : Disk) (place : Place) : Bool := d.files.contains place || d.directories.contains place

/-- The place of a name in a directory. -/
def child (d : Disk) (place : Place) (name : String) : Except Obstacle Place :=
  if !d.directories.contains place || longestName < name.utf8ByteSize then .error .impossible
  else .ok (place ++ [name])

/-- Takes one step of an existing path. -/
def step (d : Disk) (place : Place) (piece : String) : Except Obstacle Place :=
  if isIdle piece || piece == ".." then
    if !d.directories.contains place then .error .impossible
    else .ok (if piece == ".." then place.dropLast else place)
  else do
    let next ← d.child place piece
    if d.has next then .ok next else .error .missing

/-- The place where pieces lead. -/
def follow (d : Disk) (pieces : List String) : Except Obstacle Place :=
  pieces.foldlM d.step (if pieces.head? = some "" then [] else d.workingDirectory)

/-- The place where a path leads. -/
def resolve (d : Disk) (p : Path) : Except Obstacle Place :=
  if !isPossible p then .error .impossible
  else if p.text.isEmpty then .error .missing
  else d.follow (pieces p)

/-- Whether a path leads to a place with some property. -/
def leadsTo (d : Disk) (test : Place → Bool) (p : Path) : Bool :=
  match d.resolve p with
  | .ok place => test place
  | .error _ => false

def isFile (d : Disk) (p : Path) : Bool := d.leadsTo d.files.contains p

def isDirectory (d : Disk) (p : Path) : Bool := d.leadsTo d.directories.contains p

/-- The place where something with this path can be made. -/
def freePlace (d : Disk) (pieces : List String) : Except Obstacle Place :=
  match pieces.getLast? with
  | none => .error .taken
  | some name => do
    let above ← d.follow pieces.dropLast
    let place ← d.child above name
    if name == "." || name == ".." || d.has place then .error .taken else .ok place

/-- Makes one directory; slashes at the end do no harm. -/
def makeDirectory (d : Disk) (pieces : List String) : Except Obstacle Disk := do
  let place ← d.freePlace (trimEnd (· == "") pieces)
  .ok { d with directories := d.directories.insert place }

/-- The pieces of the paths above, from the nearest upwards, as a path writes them. -/
def above (pieces : List String) : List (List String) :=
  let trimmed := trimEnd isIdle pieces
  ((List.range trimmed.length).reverse.map trimmed.take).filter fun q =>
    q.getLast?.any fun piece => !isIdle piece

/-- Whether pieces lead to a directory. -/
def isDirectoryAt (d : Disk) (pieces : List String) : Bool :=
  match d.follow pieces with
  | .ok place => d.directories.contains place
  | .error _ => false

/-- Makes the first of the directories, after the others if it cannot be made without them, and
says whether it is there in the end. -/
def makeDirectories (d : Disk) : List (List String) → Disk × Bool
  | [] => (d, true)
  | first :: others =>
    let settle (d : Disk) : Disk × Bool :=
      match d.makeDirectory first with
      | .ok made => (made, true)
      | .error obstacle => (d, obstacle == .taken && d.isDirectoryAt first)
    match d.makeDirectory first with
    | .error .missing =>
      let (d, done) := d.makeDirectories others
      if done then settle d else (d, false)
    | _ => settle d

/-- Makes a directory and those above it. -/
def addDirectory (d : Disk) (p : Path) : Disk :=
  if !isPossible p || p.text.isEmpty then d
  else (d.makeDirectories (pieces p :: above (pieces p))).1

/-- Makes the directories above a path. -/
def addAbove (d : Disk) (p : Path) : Disk :=
  match above (pieces p) with
  | [] => d
  | nearest :: others =>
    if isPossible ⟨"/".intercalate nearest⟩ then (d.makeDirectories (nearest :: others)).1 else d

/-- Makes a file and the directories above it. -/
def addFile (d : Disk) (p : Path) : Disk :=
  let d := d.addAbove p
  -- A slash at the end asks for a directory, which no file is.
  if !isPossible p || (pieces p).getLast? = some "" then d
  else
    match d.freePlace (pieces p) with
    | .ok place => { d with files := d.files.insert place }
    | .error _ => d

/-- The files at or below a place, as seen from it, ascending. -/
def listBelow (d : Disk) (place : Place) : List Place :=
  (d.files.toList.filter place.isPrefixOf).map fun file => file.drop place.length

/-- The files at or below a path, each added to the path as it is written. -/
def filesBelow? (d : Disk) (p : Path) : Option (List Path) :=
  match d.resolve p with
  | .error _ => none
  | .ok place =>
    some ((d.listBelow place).map fun names => names.foldl (fun q name => q.join ⟨name⟩) p)

/-- The disk as something to ask about files. -/
def view (d : Disk) : FileView where
  isFile := d.isFile
  isDirectory := d.isDirectory
  filesBelow? := d.filesBelow?

end Disk

end ModuleGraph
