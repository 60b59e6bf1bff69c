import ModuleGraph.Path
import ModuleGraph.Text.Glob

/-! # Kinds of files

The files of a module are sorted by name: the first rule whose pattern matches decides.  The
extended rules know some kinds of resources besides. -/

namespace ModuleGraph

/-- What a file is to the build. -/
inductive FileKind where
  | source
  | header
  | processedResource
  | copiedResource
  | ignored
  deriving DecidableEq

namespace FileKind

def write : FileKind → String
  | .source => "source"
  | .header => "header"
  | .processedResource => "processed-resource"
  | .copiedResource => "copied-resource"
  | .ignored => "ignored"

end FileKind

/-- Which rules to go by. -/
inductive FileRules where
  | standard
  | extended
  deriving DecidableEq, Inhabited

namespace FileRules

def write : FileRules → String
  | .standard => "standard"
  | .extended => "extended"

def parse? : String → Option FileRules
  | "standard" => some .standard
  | "extended" => some .extended
  | _ => none

/-- Patterns for sources, headers and files to pass over. -/
def standardTable : List (String × FileKind) :=
  [("*.c", .source), ("*.cc", .source), ("*.cpp", .source), ("*.cxx", .source), ("*.m", .source),
    ("*.mm", .source), ("*.s", .source), ("*.swift", .source), ("*.h", .header),
    ("*.hh", .header), ("*.hpp", .header), ("*.modulemap", .header), (".*", .ignored),
    ("*.md", .ignored), ("LICENSE*", .ignored)]

/-- Patterns for resources. -/
def resourceTable : List (String × FileKind) :=
  [("*.xib", .processedResource), ("*.storyboard", .processedResource),
    ("*.strings", .processedResource), ("*.xcassets", .processedResource),
    ("*.json", .copiedResource), ("*.png", .copiedResource), ("*.txt", .copiedResource)]

/-- The patterns in the order in which they are tried. -/
def table : FileRules → List (String × FileKind)
  | .standard => standardTable
  | .extended => standardTable ++ resourceTable

/-- The kind of a file, if a rule knows it. -/
def classify (rules : FileRules) (path : Path) : Option FileKind := do
  let name ← path.fileName?
  (rules.table.find? fun (pattern, _) => Text.globMatches pattern.toList name.toList).map (·.2)

end FileRules

/-- How a resource is brought into the product. -/
inductive ResourceRule where
  | process
  | copy
  deriving DecidableEq

namespace ResourceRule

def write : ResourceRule → String
  | .process => "process"
  | .copy => "copy"

end ResourceRule

structure Resource where
  path : Path
  rule : ResourceRule
  deriving DecidableEq

/-- The files of a module by kind. -/
structure Sources where
  sources : List Path
  headers : List Path
  resources : List Resource
  ignored : List Path
  deriving DecidableEq, Inhabited

namespace Sources

/-- No files. -/
def empty : Sources := ⟨[], [], [], []⟩

def isEmpty (s : Sources) : Bool :=
  s.sources.isEmpty && s.headers.isEmpty && s.resources.isEmpty && s.ignored.isEmpty

/-- How a file of a given kind is a resource, if it is one. -/
def resourceRule? : FileKind → Option ResourceRule
  | .processedResource => some .process
  | .copiedResource => some .copy
  | _ => none

/-- The files that rules know, by kind, each in the order of the list. -/
def classify (rules : FileRules) (files : List Path) : Sources where
  sources := files.filter fun p => rules.classify p == some .source
  headers := files.filter fun p => rules.classify p == some .header
  resources := files.filterMap fun p =>
    ((rules.classify p).bind resourceRule?).map (⟨p, ·⟩)
  ignored := files.filter fun p => rules.classify p == some .ignored

/-- The files that no rule knows. -/
def unhandled (rules : FileRules) (files : List Path) : List Path :=
  files.filter fun p => (rules.classify p).isNone

end Sources

end ModuleGraph
