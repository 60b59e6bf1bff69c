import ModuleGraph.Platform
import ModuleGraph.Trait
import ModuleGraph.ProductFilter
import ModuleGraph.FileRules

/-! # Options for making a graph -/

namespace ModuleGraph

/-- Least platform versions for tests, by platform. -/
abbrev PlatformOverrides := SortedMap String PlatformVersion

/-- How a graph is to be made. -/
structure Options where
  /-- The products of the root packages to build. -/
  filter : ProductFilter
  /-- Whether every test module gets a test product of its own. -/
  separateTestProducts : Bool
  /-- Whether the library modules of a root package are gathered for interactive use. -/
  replProduct : Bool
  fileRules : FileRules
  platformOverrides : PlatformOverrides
  traits : TraitSelection
  deriving DecidableEq

namespace Options

/-- Everything is built, nothing is overridden. -/
def standard : Options where
  filter := .everything
  separateTestProducts := false
  replProduct := false
  fileRules := .standard
  platformOverrides := KeyedSet.empty
  traits := .defaults

end Options

end ModuleGraph
