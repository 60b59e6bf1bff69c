import ModuleGraph.Proofs.Closure
import ModuleGraph.Proofs.ModuleCycles

/-!
# What a loaded graph holds

A loaded graph has all packages that were assembled.  Where names do not repeat in a package,
looking modules and products up by id loses none of them, so the nodes of the graph are the modules
and products of its packages, and since the modules have passed the check, no module leads back to
itself.

## Key results

- `Source.BuiltFrom.mem_nodes`: the nodes of a graph are those of its packages
- `Source.BuiltFrom.acyclic`: a loaded graph has no cycle of modules
- `Source.BuiltFrom.modules`, `Source.BuiltFrom.products`: what a package has of its manifest
- `Source.BuiltFrom.mem_inputs`, `Source.BuiltFrom.mem_rootPackages`: inputs and roots
- `Source.BuiltFrom.exists_module_iff`, `Source.BuiltFrom.exists_product_iff`: which ids a graph has
-/

namespace ModuleGraph

/-- No two modules and no two products of a package of the graph have the same name. -/
def Graph.DistinctNames (g : Graph) : Prop :=
  ∀ p ∈ g.packages.toList,
    (p.modules.map Module.name).Nodup ∧ (p.products.map Product.name).Nodup

instance (g : Graph) : Decidable g.DistinctNames :=
  inferInstanceAs (Decidable (∀ p ∈ g.packages.toList, _))

namespace Source.BuiltFrom

variable {s : Source} {g : Graph} {parts : Parts} (h : s.BuiltFrom g parts)
include h

/-! ### Packages -/

/-- The packages that a graph is built from are assembled. -/
theorem assembles : s.Assembles parts.assembled := ⟨parts, h.assembled, rfl⟩

/-- They come from the traits and packages that were found. -/
theorem assemble_eq :
    (s.assembly parts.traits parts.discovery).assemble.result = .ok parts.assembled :=
  (assembled_ok h.assembled).2.2

/-- The packages of a graph are those that were assembled. -/
theorem mem_packages {p : Package} :
    p ∈ g.packages.toList ↔ p ∈ parts.assembled.packages := by
  rw [h.madeOf.packages]
  exact KeyedSet.mem_ofList_of_nodup h.assembles.ids.1

/-- The ids of the modules and products of a package name the package. -/
theorem ids {p : Package} (hp : p ∈ g.packages.toList) :
    (∀ m ∈ p.modules, m.id.package = p.identity) ∧ ∀ q ∈ p.products, q.id.package = p.identity :=
  h.assembles.ids.2 p (h.mem_packages.1 hp)

/-- Every package of the graph stands for an entry of discovery. -/
theorem isPackage {p : Package} (hp : p ∈ g.packages.toList) :
    (s.assembly parts.traits parts.discovery).IsPackage (p.identity, p.manifest) p := by
  obtain ⟨w, hmade, heq⟩ := h.exists_madeFrom
  rw [← heq]
  exact (hmade.isPackage hp).2.2

/-- A package of the graph has the manifest of its identity, and is a root if that is one. -/
theorem manifest {p : Package} (hp : p ∈ g.packages.toList) :
    s.catalog.manifest? p.identity = some p.manifest ∧
      p.isRoot = s.catalog.isRoot p.identity := by
  obtain ⟨w, hmade, -⟩ := h.exists_madeFrom
  exact ⟨(hmade.isPackage hp).2.1, (h.isPackage hp).isRoot⟩

/-- The modules of a package of the graph stand for declared ones, tests only in roots. -/
theorem modules {p : Package} (hp : p ∈ g.packages.toList) :
    List.Forall₂ ((s.assembly parts.traits parts.discovery).IsModule p.identity p.manifest)
      (p.manifest.modules.filter (Assembly.hasModule p.isRoot)) p.modules := by
  have hpackage := h.isPackage hp
  rw [hpackage.isRoot]
  exact hpackage.modules

/-- The products of a package of the graph are the declared ones and those that are added. -/
theorem products {p : Package} (hp : p ∈ g.packages.toList) :
    ∃ declared, List.Forall₂ (Assembly.IsProduct p)
        (p.manifest.products.filter (Assembly.hasProduct p.isRoot)) declared ∧
      p.products = declared ++
        (s.assembly parts.traits parts.discovery).addedProducts (Assembly.staged p) :=
  Assembly.assemble_products h.assemble_eq (h.mem_packages.1 hp)

/-- The packages that a package of the graph depends on are part of the graph. -/
theorem exists_dependency {p : Package} (hp : p ∈ g.packages.toList) {id : Identity}
    (hid : id ∈ p.dependencies) : ∃ q ∈ g.packages.toList, q.identity = id := by
  obtain ⟨w, hmade, -⟩ := h.exists_madeFrom
  have hroots := Catalog.listsRoots_ofList s.mirrors s.manifests
  have htraced := Catalog.discover_traced hroots hmade.discovery
  rw [(h.isPackage hp).dependencies] at hid
  obtain ⟨-, hhas, hmet⟩ := htraced.edges p.identity id hid
  exact hmade.exists_package hmet hhas

/-- A package declares the dependencies that it has in the graph. -/
theorem exists_declared {p : Package} (hp : p ∈ g.packages.toList) {id : Identity}
    (hid : id ∈ p.dependencies) :
    ∃ dep ∈ p.manifest.dependencies, s.mirrors.identify dep.origin = id := by
  obtain ⟨w, hmade, -⟩ := h.exists_madeFrom
  have hroots := Catalog.listsRoots_ofList s.mirrors s.manifests
  have htraced := Catalog.discover_traced hroots hmade.discovery
  rw [(h.isPackage hp).dependencies] at hid
  obtain ⟨m, hm, dep, hdep, heq⟩ := htraced.declared p.identity id hid
  have hsame : m = p.manifest := Option.some.inj (hm.symm.trans (h.manifest hp).1)
  exact ⟨dep, hsame ▸ hdep, heq⟩

/-- The root packages of a graph are its packages that are roots. -/
theorem mem_rootPackages {p : Package} :
    p ∈ g.rootPackages.toList ↔ p ∈ g.packages.toList ∧ p.isRoot = true := by
  have hfound : ∀ p ∈ s.catalog.roots.filterMap g.packages.find?, p ∈ g.packages.toList :=
    fun p hp => (KeyedSet.mem_filterMap_find?.1 hp).1
  rw [h.madeOf.rootPackages, KeyedSet.mem_ofList_of_subset hfound, KeyedSet.mem_filterMap_find?]
  refine and_congr_right fun hp => ?_
  rw [(h.manifest hp).2, Catalog.isRoot, List.contains_iff_mem]

/-- The packages that a graph is built for are those that its inputs name. -/
theorem mem_inputs {p : Package} :
    p ∈ (s.inputs parts.discovery).filterMap g.packages.find? ↔
      p ∈ g.packages.toList ∧
        s.catalog.IsInput s.mirrors s.rootDependencies p.identity := by
  obtain ⟨-, hdiscover, -⟩ := assembled_ok h.assembled
  rw [KeyedSet.mem_filterMap_find?, inputs, Discovery.mem_foldl_addNew]
  refine and_congr_right fun hp => or_congr_right ?_
  have hhas : s.catalog.has p.identity = true := Catalog.has_iff.2 ⟨_, (h.manifest hp).1⟩
  constructor
  · exact fun hextra => ⟨hhas, Catalog.exists_of_discover_extra hdiscover hextra⟩
  · rintro ⟨-, dep, hdep, heq⟩
    exact heq ▸ Catalog.discover_extra hdiscover dep hdep

/-- The package of every input is part of the graph. -/
theorem exists_input {id : Identity}
    (hid : s.catalog.IsInput s.mirrors s.rootDependencies id) :
    ∃ p ∈ g.packages.toList, p.identity = id := by
  obtain ⟨w, hmade, -⟩ := h.exists_madeFrom
  have hroots := Catalog.listsRoots_ofList s.mirrors s.manifests
  have hexact := Catalog.discover_exact hroots hmade.discovery
  have hhas : s.catalog.has id = true := hid.elim (hroots.has id) And.left
  exact hmade.exists_package ((hexact.mem_order id).2 ⟨hhas, id, hid, .refl⟩) hhas

/-- The roots of a catalog are root packages of the graph. -/
theorem exists_rootPackage {id : Identity} (hroot : s.catalog.isRoot id = true) :
    ∃ p ∈ g.rootPackages.toList, p.identity = id := by
  have hinput : s.catalog.IsInput s.mirrors s.rootDependencies id :=
    .inl (List.contains_iff_mem.1 hroot)
  obtain ⟨p, hp, hid⟩ := h.exists_input hinput
  have hisRoot : p.isRoot = true := by rw [(h.manifest hp).2, hid, hroot]
  exact ⟨p, h.mem_rootPackages.2 ⟨hp, hisRoot⟩, hid⟩

/-! ### Modules and products -/

/-- The modules of a graph are those of its packages, by id. -/
theorem allModules :
    g.allModules = KeyedSet.ofList (g.packages.toList.flatMap (·.modules)) :=
  congrArg Lookup.modules h.madeOf.lookup

/-- The products of a graph are those of its packages, by id. -/
theorem allProducts :
    g.allProducts = KeyedSet.ofList (g.packages.toList.flatMap (·.products)) :=
  congrArg Lookup.products h.madeOf.lookup

/-- The modules that can be looked up are modules of packages. -/
theorem exists_package_of_module {m : Module} (hm : m ∈ g.allModules.toList) :
    ∃ p ∈ g.packages.toList, m ∈ p.modules := by
  rw [h.allModules] at hm
  exact List.mem_flatMap.1 (KeyedSet.mem_of_mem_ofList hm)

/-- The products that can be looked up are products of packages. -/
theorem exists_package_of_product {q : Product} (hq : q ∈ g.allProducts.toList) :
    ∃ p ∈ g.packages.toList, q ∈ p.products := by
  rw [h.allProducts] at hq
  exact List.mem_flatMap.1 (KeyedSet.mem_of_mem_ofList hq)

/-- A module can be looked up exactly if a package has one with its id. -/
theorem exists_module_iff {id : ModuleId} :
    (∃ m ∈ g.allModules.toList, m.id = id) ↔
      ∃ p ∈ g.packages.toList, ∃ m ∈ p.modules, m.id = id := by
  rw [← KeyedSet.contains_iff, h.allModules, KeyedSet.contains_ofList, List.exists_mem_flatMap]

/-- A product can be looked up exactly if a package has one with its id. -/
theorem exists_product_iff {id : ProductId} :
    (∃ q ∈ g.allProducts.toList, q.id = id) ↔
      ∃ p ∈ g.packages.toList, ∃ q ∈ p.products, q.id = id := by
  rw [← KeyedSet.contains_iff, h.allProducts, KeyedSet.contains_ofList, List.exists_mem_flatMap]

section
variable (hnames : g.DistinctNames)
include hnames

/-- Where names do not repeat in a package, what was assembled has ids of its own. -/
theorem distinctIds : parts.assembled.DistinctIds :=
  h.assembles.distinctIds fun p hp => hnames p (h.mem_packages.2 hp)

/-- A graph looks up what was assembled. -/
theorem lookup_eq : g.lookup = parts.assembled.lookup := by
  rw [h.madeOf.lookup, h.madeOf.packages, (h.distinctIds hnames).lookup_sorted]

/-- The nodes of a graph are the modules and products of its packages. -/
theorem mem_nodes {x : Node} :
    x ∈ g.lookup.nodes ↔ ∃ p ∈ g.packages.toList, x ∈ p.nodes := by
  rw [h.lookup_eq hnames, (h.distinctIds hnames).mem_nodes]
  simp only [h.mem_packages]

/-- No module of a loaded graph is on a cycle. -/
theorem acyclic : g.lookup.Acyclic := by
  obtain ⟨_, -, hcheck⟩ := Except.bind_eq_ok.1 h.checked
  obtain ⟨_, hmodules, -⟩ := Except.bind_eq_ok.1 hcheck
  rw [h.lookup_eq hnames]
  exact Assembly.Assembled.acyclic_of_checkModules hmodules

end

end Source.BuiltFrom

end ModuleGraph
