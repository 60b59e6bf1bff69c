import ModuleGraph.Command.GraphFile

/-! # Commands

A command reads a graph file, makes the graph and writes something about it.  An `Invocation` has
the flags of the command line; the contents of the files are handed in.  The `Outcome` is what the
command writes, and its exit status. -/

namespace ModuleGraph

/-- Flags that all commands share. -/
structure Flags where
  /-- Lists of trait names, each with commas between the names. -/
  traits : List String
  allTraits : Bool
  products : List String
  deriving Inhabited

/-- The state of a file: it may be missing, and it may hold something else than is expected. -/
inductive FileState (α : Type) where
  | missing
  | unreadable
  | holds (a : α)

namespace FileState

/-- The contents, if the file is there; inside, if it holds what is expected. -/
def toOption {α : Type} : FileState α → Option (Option α)
  | .missing => none
  | .unreadable => some none
  | .holds a => some (some a)

end FileState

/-- What a command works on. -/
structure Workspace where
  /-- The path of the graph file as it was given. -/
  graphPath : String
  graph : FileState GraphFile
  userConfig : FileState Config
  projectConfig : FileState Config
  files : FileView

/-- What a command writes, and its exit status. -/
structure Outcome where
  status : Nat
  output : String
  errors : String
  deriving DecidableEq

namespace Command

/-- The names in lists with commas. -/
def splitNames (lists : List String) : List String :=
  lists.flatMap fun s => (Text.splitWhere (· == ',') s.toList).map String.ofList

/-- The options that the configuration and the flags make; the flags count more. -/
def options (w : Workspace) (f : Flags) : Options :=
  let configured := (Config.load w.userConfig.toOption w.projectConfig.toOption).options
  let names := splitNames f.traits
  { configured with
    traits :=
      if f.allTraits then .all
      else if names.isEmpty then configured.traits
      else .explicit (KeyedSet.ofList names)
    filter := if f.products.isEmpty then configured.filter else .ofList f.products }

/-- A failure with a message. -/
def failure (message : String) : Outcome := ⟨1, "", s!"error: {message}\n"⟩

/-- The message for a graph file without a root. -/
def noRootMessage (path : String) : String :=
  s!"graph file {path} declares no root package\nhelp: give at least one manifest `kind = \x7b root = \"<path>\" \x7d`"

/-- Warnings as text. -/
def renderWarnings (warnings : List Diagnostic) : String :=
  String.join (warnings.map (Diagnostic.render false))

/-- Makes the graph, and writes about it and the warnings on the way. -/
def withGraph (w : Workspace) (f : Flags)
    (write : Graph → List Diagnostic → Except GraphError Outcome) : Outcome :=
  match w.graph with
  | .missing =>
    failure s!"failed to read graph file: {w.graphPath}: No such file or directory (os error 2)"
  | .unreadable => failure s!"failed to parse graph file: {w.graphPath}"
  | .holds file =>
    if !file.hasRoot then failure (noRootMessage w.graphPath)
    else
      let loaded := (file.source w.files (options w f)).load
      match loaded.result.bind fun g => write g loaded.journal.warnings with
      | .ok outcome => outcome
      | .error e => ⟨1, "", e.diagnostic.render false⟩

end Command

end ModuleGraph
