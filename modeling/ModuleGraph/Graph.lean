import ModuleGraph.Graph.Nodes
import ModuleGraph.Digraph.Sort
import ModuleGraph.Graph.Error

/-! # The graph of packages, modules and products

A graph has the packages that the roots need, all their modules and products, and those of them
that can be reached from the input packages, which are the roots and the dependencies declared
beside them. -/

namespace ModuleGraph

structure Graph where
  rootPackages : PackageSet
  packages : PackageSet
  allModules : ModuleSet
  allProducts : ProductSet
  reachableModules : ModuleSet
  reachableProducts : ProductSet
  /-- Every package that is needed, roots excepted, loaded or not. -/
  required : List Reference
  artifacts : Artifacts
  enabledTraits : EnabledTraits
  inputs : List Identity

namespace Graph

/-- The modules and products of the graph by id. -/
def lookup (g : Graph) : Lookup := ⟨g.allModules, g.allProducts⟩

end Graph

namespace Lookup

/-- Everything that can be reached from the start nodes, these included, each node before what it
leads to. -/
def closure (l : Lookup) (env : Option Environment) (starts : List Node) :
    Except GraphError (List Node) :=
  ((l.nodeGraph env starts).sort starts).mapError fun _ => .unexpectedCycle

end Lookup

namespace Graph

/-- The graph of a list of packages. -/
def ofPackages (packages : List Package) (roots inputs : List Identity) (required : List Reference)
    (artifacts : Artifacts) (traits : EnabledTraits) : Except GraphError Graph := do
  let all : PackageSet := KeyedSet.ofList packages
  let l := Lookup.ofPackages all.toList
  let starts := (inputs.filterMap all.find?).flatMap Package.nodes
  let reached ← l.closure none starts
  pure
    { rootPackages := KeyedSet.ofList (roots.filterMap all.find?)
      packages := all
      allModules := l.modules
      allProducts := l.products
      reachableModules := KeyedSet.ofList (reached.filterMap Node.module?)
      reachableProducts := KeyedSet.ofList (reached.filterMap Node.product?)
      required
      artifacts
      enabledTraits := traits
      inputs }

end Graph

end ModuleGraph
