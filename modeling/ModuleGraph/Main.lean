import ModuleGraph.Command.Arguments
import ModuleGraph.Json.Parse

/-! # The program

It reads the graph file and the configuration files as JSON, looks up the files of the modules that
the manifests declare, and leaves the rest to the commands. -/

namespace ModuleGraph.Program

/-- The contents of a file. -/
def readFile (path : String) : IO (FileState String) := do
  try
    let text ← IO.FS.readFile path
    pure (.holds text)
  catch
    | .noFileOrDirectory _ _ _ => pure .missing
    | _ => pure .unreadable

/-- The contents of a file as a value of some type. -/
def readAs {α : Type} (read : Json → Option α) (path : String) : IO (FileState α) := do
  match ← readFile path with
  | .missing => pure .missing
  | .unreadable => pure .unreadable
  | .holds text =>
    match Json.parse? text >>= read with
    | some value => pure (.holds value)
    | none => pure .unreadable

def isDirectory (path : Path) : IO Bool := do
  (← IO.currentDir) / path.text |>.isDir

/-- The files below a directory. -/
partial def filesBelow (path : Path) : IO (List Path) := do
  let mut found := []
  for entry in ← ((← IO.currentDir) / path.text).readDir do
    let child := path.join ⟨entry.fileName⟩
    if ← isDirectory child then found := found ++ (← filesBelow child)
    else found := found ++ [child]
  pure found

/-- Adds the directory of a module and the files below it, if it exists. -/
def addModule (tree : FileTree) (path : Path) : IO FileTree := do
  if ← isDirectory path then
    pure ((← filesBelow path).foldl FileTree.addFile (tree.addDirectory path))
  else pure tree

/-- The directories of the modules that a graph file declares. -/
def moduleDirectories : FileState GraphFile → List Path
  | .holds file => file.manifests.flatMap fun m => m.modules.map (Assembly.modulePath m)
  | _ => []

/-- The directory of a file, as it is written. -/
def directoryOf (path : String) : Path :=
  ⟨String.ofList (Text.dropEndWhile (· != '/') path.toList)⟩

/-- The configuration in a directory. -/
def readConfig (directory : Path) : IO (FileState Config) :=
  readAs Config.ofJson? (directory.join ⟨".harbour/graph.json"⟩).text

/-- Everything that a command works on. -/
def workspace (graphPath : String) : IO Workspace := do
  let graph ← readAs GraphFile.ofJson? graphPath
  let home ← IO.getEnv "HOME"
  let userConfig ← home.elim (pure .missing) fun directory => readConfig ⟨directory⟩
  let projectConfig ← readConfig (directoryOf graphPath)
  let tree ← (moduleDirectories graph).foldlM addModule FileTree.empty
  pure ⟨graphPath, graph, userConfig, projectConfig, tree.view⟩

end ModuleGraph.Program

open ModuleGraph in
def main (words : List String) : IO UInt32 := do
  match Arguments.parse words with
  | .error message =>
    IO.eprintln s!"error: {message}"
    pure 2
  | .ok arguments =>
    let outcome := arguments.run (← Program.workspace arguments.graphPath)
    IO.print outcome.output
    IO.eprint outcome.errors
    pure outcome.status.toUInt32
