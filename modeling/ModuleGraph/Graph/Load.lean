import ModuleGraph.Graph
import ModuleGraph.Graph.TraitRequests
import ModuleGraph.Graph.Validity

/-! # Making a graph from manifests

The traits of all packages are decided first, then the packages that are needed are discovered,
assembled and checked.  Diagnostics on the way are reported in the journal, also when no graph can
be made in the end. -/

namespace ModuleGraph

/-- Everything that a graph is made from. -/
structure Source where
  manifests : List Manifest
  mirrors : Mirrors
  /-- Dependencies beside those of the roots. -/
  rootDependencies : List Dependency
  artifacts : Artifacts
  prebuilts : Prebuilts
  files : FileView
  similarity : Similarity
  options : Options

namespace Source

/-- The manifests by identity. -/
def catalog (s : Source) : Catalog := Catalog.ofList s.mirrors s.manifests

/-- The enabled traits of all packages that are reached. -/
def enabledTraits (s : Source) : Except GraphError EnabledTraits :=
  (s.catalog.enabledTraits s.mirrors s.rootDependencies s.options.traits s.options.filter).mapError
    fun e => .package (.traits e)

/-- The packages that are needed. -/
def discover (s : Source) (traits : EnabledTraits) : Except GraphError Discovery :=
  (s.catalog.discover s.mirrors traits s.rootDependencies s.options.filter).mapError .package

/-- What assembly is given. -/
def assembly (s : Source) (traits : EnabledTraits) (d : Discovery) : Assembly where
  catalog := s.catalog
  mirrors := s.mirrors
  discovery := d
  traits := traits
  options := s.options
  artifacts := s.artifacts
  prebuilts := s.prebuilts
  files := s.files
  similarity := s.similarity

/-- The roots, and after them the packages of the dependencies beside them. -/
def inputs (s : Source) (d : Discovery) : List Identity :=
  d.extra.foldl Discovery.addNew s.catalog.roots

/-- The graph, or the reason why there is none. -/
def load (s : Source) : Logged GraphError Graph := do
  let traits ← Logged.ofExcept s.enabledTraits
  let d ← Logged.ofExcept (s.discover traits)
  Logged.ofExcept (d.checkCycles s.catalog)
  let assembled ← ((s.assembly traits d).assemble).mapError GraphError.package
  Logged.ofExcept assembled.check
  let _ ← Logged.mapList (fun w => Logged.tell (.diagnostic w)) assembled.unusedWarnings
  Logged.ofExcept
    (Graph.ofPackages assembled.packages s.catalog.roots (s.inputs d) d.required s.artifacts traits)

end Source

end ModuleGraph
