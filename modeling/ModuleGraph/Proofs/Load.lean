import ModuleGraph.Graph.Load
import ModuleGraph.Proofs.Assembly.Packages
import ModuleGraph.Proofs.Catalog

/-!
# What a graph is made from

A graph that is loaded comes from trait resolution, discovery and assembly, one after the other,
all of which have succeeded.  Its packages are those that discovery has met and that have a
manifest.

## Key results

- `Graph.ofPackages_ok`: what a graph has of the packages that it is made of
- `Source.load_eq`: a graph is made from packages that are assembled first and then checked
- `Source.exists_builtFrom`, `Source.load_ok`: the parts that a graph is made from
- `Source.MadeFrom.isPackage`, `Source.MadeFrom.exists_package`: the packages of a graph
-/

namespace ModuleGraph

/-- A graph is made of packages, with roots and inputs among them. -/
structure Graph.MadeOf (g : Graph) (packages : List Package) (roots inputs : List Identity) :
    Prop where
  packages : g.packages = KeyedSet.ofList packages
  rootPackages : g.rootPackages = KeyedSet.ofList (roots.filterMap g.packages.find?)
  lookup : g.lookup = Lookup.ofPackages g.packages.toList
  reached : ∃ nodes,
    g.lookup.closure none ((inputs.filterMap g.packages.find?).flatMap Package.nodes) = .ok nodes ∧
      g.reachableModules = KeyedSet.ofList (nodes.filterMap Node.module?) ∧
      g.reachableProducts = KeyedSet.ofList (nodes.filterMap Node.product?)

/-- What a graph has of the packages that it is made of. -/
theorem Graph.ofPackages_ok {packages : List Package} {roots inputs : List Identity}
    {required : List Reference} {artifacts : Artifacts} {traits : EnabledTraits} {g : Graph}
    (h : Graph.ofPackages packages roots inputs required artifacts traits = .ok g) :
    g.MadeOf packages roots inputs ∧ g.enabledTraits = traits ∧ g.required = required := by
  unfold Graph.ofPackages at h
  obtain ⟨nodes, hnodes, h⟩ := Except.bind_eq_ok.1 h
  cases h
  exact ⟨⟨rfl, rfl, rfl, nodes, hnodes, rfl, rfl⟩, rfl, rfl⟩

namespace Source

/-- What a graph is made from when it has been assembled. -/
structure Parts where
  traits : EnabledTraits
  discovery : Discovery
  assembled : Assembly.Assembled

/-- Assembles what a graph is made from. -/
def assembled (s : Source) : Except GraphError Parts := do
  let traits ← s.enabledTraits
  let d ← s.discover traits
  d.checkCycles s.catalog
  let a ← ((s.assembly traits d).assemble.mapError GraphError.package).result
  pure ⟨traits, d, a⟩

/-- These packages are assembled. -/
def Assembles (s : Source) (a : Assembly.Assembled) : Prop :=
  ∃ parts, s.assembled = .ok parts ∧ parts.assembled = a

/-- The graph that is made from what has been assembled. -/
def graphOf (s : Source) (parts : Parts) : Except GraphError Graph :=
  Graph.ofPackages parts.assembled.packages s.catalog.roots (s.inputs parts.discovery)
    parts.discovery.required s.artifacts parts.traits

/-- A graph is made from assembled packages that have been checked. -/
theorem load_eq (s : Source) :
    s.load.result =
      s.assembled >>= fun parts => parts.assembled.check >>= fun _ => s.graphOf parts := by
  unfold load assembled
  simp only [Logged.result_bind, Logged.result_ofExcept, bind_assoc, pure_bind]
  refine bind_congr fun traits => bind_congr fun d => bind_congr fun _ => bind_congr fun a =>
    bind_congr fun _ => ?_
  -- The warnings do not change the outcome.
  obtain ⟨u, hu⟩ := Logged.exists_mapList_tell Report.diagnostic a.unusedWarnings
  rw [hu]
  rfl

/-- What has been assembled comes from trait resolution, discovery and assembly. -/
theorem assembled_ok {s : Source} {parts : Parts} (h : s.assembled = .ok parts) :
    s.enabledTraits = .ok parts.traits ∧
      s.catalog.discover s.mirrors parts.traits s.rootDependencies s.options.filter =
        .ok parts.discovery ∧
      (s.assembly parts.traits parts.discovery).assemble.result = .ok parts.assembled := by
  unfold assembled at h
  obtain ⟨traits, htraits, h⟩ := Except.bind_eq_ok.1 h
  obtain ⟨d, hd, h⟩ := Except.bind_eq_ok.1 h
  obtain ⟨_, -, h⟩ := Except.bind_eq_ok.1 h
  obtain ⟨a, ha, h⟩ := Except.bind_eq_ok.1 h
  cases h
  exact ⟨htraits, Except.mapError_eq_ok.1 hd, Logged.mapError_eq_ok.1 ha⟩

/-- A graph is made from the traits and packages that were found. -/
structure MadeFrom (s : Source) (g : Graph) (w : TraitWalk) (d : Discovery)
    (packages : List Package) : Prop where
  traits : s.catalog.walkTraits s.mirrors s.rootDependencies s.options.traits s.options.filter =
    .ok w
  discovery : s.catalog.discover s.mirrors w.enabled s.rootDependencies s.options.filter = .ok d
  assembled : List.Forall₂ (s.assembly w.enabled d).IsPackage (s.assembly w.enabled d).entries
    packages
  graphPackages : g.packages = KeyedSet.ofList packages
  graphTraits : g.enabledTraits = w.enabled

/-- A graph is made from parts that have been assembled and checked. -/
structure BuiltFrom (s : Source) (g : Graph) (parts : Parts) : Prop where
  assembled : s.assembled = .ok parts
  checked : parts.assembled.check = .ok ()
  traits : g.enabledTraits = parts.traits
  required : g.required = parts.discovery.required
  madeOf : g.MadeOf parts.assembled.packages s.catalog.roots (s.inputs parts.discovery)

/-- A graph that is loaded is made from parts that have been assembled and checked. -/
theorem exists_builtFrom {s : Source} {g : Graph} (h : s.load.result = .ok g) :
    ∃ parts, s.BuiltFrom g parts := by
  rw [load_eq] at h
  obtain ⟨parts, hparts, h⟩ := Except.bind_eq_ok.1 h
  obtain ⟨_, hcheck, hgraph⟩ := Except.bind_eq_ok.1 h
  obtain ⟨hmade, htraits, hrequired⟩ := Graph.ofPackages_ok hgraph
  exact ⟨parts, hparts, hcheck, htraits, hrequired, hmade⟩

/-- The traits that were found are what the walk for traits has enabled. -/
theorem exists_walkTraits {s : Source} {traits : EnabledTraits}
    (h : s.enabledTraits = .ok traits) :
    ∃ w, s.catalog.walkTraits s.mirrors s.rootDependencies s.options.traits s.options.filter =
      .ok w ∧ w.enabled = traits := by
  have hmap := Except.mapError_eq_ok.1 h
  unfold Catalog.enabledTraits at hmap
  cases hw : s.catalog.walkTraits s.mirrors s.rootDependencies s.options.traits
      s.options.filter with
  | error e =>
    rw [hw] at hmap
    exact nomatch hmap
  | ok w =>
    rw [hw] at hmap
    exact ⟨w, rfl, Except.ok.inj hmap⟩

/-- What a graph is built from was found before it was assembled. -/
theorem BuiltFrom.exists_madeFrom {s : Source} {g : Graph} {parts : Parts}
    (h : s.BuiltFrom g parts) :
    ∃ w, s.MadeFrom g w parts.discovery parts.assembled.packages ∧ w.enabled = parts.traits := by
  obtain ⟨htraits, hdiscover, hassemble⟩ := assembled_ok h.assembled
  obtain ⟨w, hwalk, heq⟩ := exists_walkTraits htraits
  rw [← heq] at hdiscover hassemble
  exact ⟨w, ⟨hwalk, hdiscover, Assembly.assemble_ok hassemble, h.madeOf.packages,
    h.traits.trans heq.symm⟩, heq⟩

/-- The parts that a graph is made from. -/
theorem load_ok {s : Source} {g : Graph} (h : s.load.result = .ok g) :
    ∃ w d packages, s.MadeFrom g w d packages := by
  obtain ⟨parts, hbuilt⟩ := exists_builtFrom h
  obtain ⟨w, hmade, -⟩ := hbuilt.exists_madeFrom
  exact ⟨w, parts.discovery, parts.assembled.packages, hmade⟩

namespace MadeFrom

variable {s : Source} {g : Graph} {w : TraitWalk} {d : Discovery} {packages : List Package}

/-- Every package of the graph stands for an entry of discovery. -/
theorem isPackage (h : s.MadeFrom g w d packages) {p : Package} (hp : p ∈ g.packages.toList) :
    p.identity ∈ d.order ∧ s.catalog.manifest? p.identity = some p.manifest ∧
      (s.assembly w.enabled d).IsPackage (p.identity, p.manifest) p := by
  rw [h.graphPackages] at hp
  have hmem : p ∈ packages := KeyedSet.mem_of_mem_ofList hp
  obtain ⟨entry, hentry, hpackage⟩ := h.assembled.exists_of_mem_right hmem
  have heq : entry = (p.identity, p.manifest) :=
    Prod.ext hpackage.identity.symm hpackage.manifest.symm
  rw [heq] at hentry hpackage
  obtain ⟨hid, hm⟩ := (Assembly.mem_entries _ _ _).1 hentry
  exact ⟨hid, hm, hpackage⟩

/-- Every package that was met and has a manifest is in the graph. -/
theorem exists_package (h : s.MadeFrom g w d packages) {id : Identity} (hid : id ∈ d.order)
    (hhas : s.catalog.has id = true) : ∃ p ∈ g.packages.toList, p.identity = id := by
  obtain ⟨m, hm⟩ := Catalog.has_iff.1 hhas
  have hentry : (id, m) ∈ (s.assembly w.enabled d).entries :=
    (Assembly.mem_entries _ _ _).2 ⟨hid, hm⟩
  obtain ⟨p, hp, hpackage⟩ := h.assembled.exists_of_mem_left hentry
  rw [h.graphPackages]
  exact KeyedSet.contains_iff.1 (KeyedSet.contains_ofList.2 ⟨p, hp, hpackage.identity⟩)

end MadeFrom

/-- Manifests and nothing beside them. -/
def ofManifests (manifests : List Manifest) : Source where
  manifests := manifests
  mirrors := KeyedSet.empty
  rootDependencies := []
  artifacts := KeyedSet.empty
  prebuilts := KeyedSet.empty
  files := FileTree.empty.view
  similarity := Similarity.never
  options := Options.standard

end Source

end ModuleGraph
