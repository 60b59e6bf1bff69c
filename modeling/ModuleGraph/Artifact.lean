import ModuleGraph.Origin

/-! # Binary artifacts and prebuilt libraries

Binary modules are backed by artifacts, and a prebuilt library may stand in for a product.  Both
are handed in from outside, for each package by the name of the module or product. -/

namespace ModuleGraph

inductive ArtifactKind where
  | framework
  | archive
  | staticLibrary
  | unknown
  deriving DecidableEq

namespace ArtifactKind

/-- All kinds. -/
def all : List ArtifactKind := [.framework, .archive, .staticLibrary, .unknown]

def write : ArtifactKind → String
  | .framework => "framework"
  | .archive => "artifacts-archive"
  | .staticLibrary => "static-library"
  | .unknown => "unknown"

/-- The kind with a given name. -/
def parse? (name : String) : Option ArtifactKind := all.find? fun k => k.write == name

end ArtifactKind

/-- A file that backs a binary module. -/
structure Artifact where
  kind : ArtifactKind
  path : Path
  deriving DecidableEq

/-- A library that was built ahead of time. -/
structure Prebuilt where
  identity : Identity
  libraryName : String
  path : Path
  products : List String
  includePath : Option Path
  deriving DecidableEq

namespace Prebuilt

/-- Whether two descriptions are of one library; paths count by their components. -/
def same (p q : Prebuilt) : Bool :=
  p.identity == q.identity && p.libraryName == q.libraryName &&
    p.path.components == q.path.components && p.products == q.products &&
    p.includePath.map Path.components == q.includePath.map Path.components

end Prebuilt

/-- The artifacts of each package by module name. -/
abbrev Artifacts := SortedMap Identity (SortedMap String Artifact)

/-- The prebuilt libraries of each package by product name. -/
abbrev Prebuilts := SortedMap Identity (SortedMap String Prebuilt)

namespace Artifacts

/-- The artifact of a module. -/
def find? (a : Artifacts) (package : Identity) (module : String) : Option Artifact := do
  (← SortedMap.get? a package).get? module

end Artifacts

namespace Prebuilts

/-- The library that stands in for a product. -/
def find? (p : Prebuilts) (package : Identity) (product : String) : Option Prebuilt := do
  (← SortedMap.get? p package).get? product

end Prebuilts

end ModuleGraph
