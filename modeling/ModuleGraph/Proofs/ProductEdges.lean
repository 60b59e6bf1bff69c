import ModuleGraph.Proofs.EdgeTargets

/-!
# Where edges to products come from

A module names a product, and the graph says which package it is taken from.  That package is always
one that the declaring package depends on and that has the product for others to use.  A reference
that names a package leaves no choice.  One that names none is resolved only if there is nothing to
choose from: a second package with such a product is an error, not a matter of order.

## Key results

- `Source.BuiltFrom.vends_iff`: the catalog and the graph agree on what packages offer
- `Source.BuiltFrom.productEdge`: what a single edge stands for
- `Source.load_product_edges`: every edge to a product stands for a choice without alternatives
-/

namespace ModuleGraph

/-- A package has a product of this name that others may use; a test product is for roots. -/
def Package.Offers (p : Package) (name : String) : Prop :=
  ∃ product, p.manifest.product? name = some product ∧ (product.kind = .test → p.isRoot = true)

namespace Source

/-- Nothing but this product can be meant by a dependency in a module of a package. -/
inductive Chooses (s : Source) (g : Graph) (p : Package) (d : ModuleDependency) (id : ProductId) :
    Prop
  /-- The package is that of the first declared dependency that goes by the name. -/
  | qualified (package : String) (hasks : p.manifest.AsksFor d id.name (some package))
      (dep : Dependency) (hdep : p.manifest.dependencies.find?
        (fun dep => dep.isMeantBy (s.mirrors.identify dep.origin) package) = some dep)
      (hid : s.mirrors.identify dep.origin = id.package)
  /-- No other package on which this one depends has a product of the name. -/
  | unqualified (hasks : p.manifest.AsksFor d id.name none)
      (honly : ∀ q ∈ g.packages.toList, q.identity ∈ p.dependencies → q.Offers id.name →
        q.identity = id.package)

/-- What an edge of a declared module to a product stands for. -/
structure ProductEdge (s : Source) (g : Graph) (p : Package) (decl : ModuleDecl) (e : Edge)
    (id : ProductId) : Prop where
  loaded : id.package ∈ p.dependencies
  declared : ∃ dep ∈ p.manifest.dependencies, s.mirrors.identify dep.origin = id.package
  offered : ∃ q ∈ g.packages.toList, q.identity = id.package ∧ q.Offers id.name
  stems : ∃ d ∈ decl.dependencies, d.enabledBy p.enabledTraits = true ∧
    e.conditions = d.conditions ∧ s.Chooses g p d id

/-- A module stands for a declared one, and so do its edges to products. -/
structure TracesProducts (s : Source) (g : Graph) (p : Package) (decl : ModuleDecl)
    (mod : Module) : Prop where
  id : mod.id = ⟨p.identity, decl.name⟩
  kind : mod.kind = decl.kind
  edges : ∀ e ∈ mod.edges, ∀ id, e.target = .product id → s.ProductEdge g p decl e id

namespace BuiltFrom

variable {s : Source} {g : Graph} {parts : Parts} (h : s.BuiltFrom g parts)
include h

/-- What the catalog says about a package of the graph is what its manifest says. -/
theorem vends_iff {q : Package} (hq : q ∈ g.packages.toList) {name : String} :
    s.catalog.Vends q.identity name ↔ q.Offers name := by
  obtain ⟨hmanifest, hroot⟩ := h.manifest hq
  unfold Catalog.Vends Package.Offers
  rw [hroot]
  constructor
  · rintro ⟨m, product, hm, hproduct, htest⟩
    have hsame : m = q.manifest := Option.some.inj (hm.symm.trans hmanifest)
    exact ⟨product, hsame ▸ hproduct, htest⟩
  · rintro ⟨product, hproduct, htest⟩
    exact ⟨q.manifest, product, hmanifest, hproduct, htest⟩

variable {p : Package} (hp : p ∈ g.packages.toList)
include hp

/-- A package that another one depends on and that vends a product is a package of the graph and
offers it. -/
theorem exists_offers {id : Identity} (hid : id ∈ p.dependencies) {name : String}
    (hvends : s.catalog.Vends id name) :
    ∃ q ∈ g.packages.toList, q.identity = id ∧ q.Offers name := by
  obtain ⟨q, hq, hqid⟩ := h.exists_dependency hp hid
  have hoffers : q.Offers name := (h.vends_iff hq).1 (hqid ▸ hvends)
  exact ⟨q, hq, hqid, hoffers⟩

/-- A product that a reference is resolved to is one that a dependency of the package vends, and no
other product can be meant. -/
theorem chooses {decl : ModuleDecl} {d : ModuleDependency} {name : String}
    {package : Option String} {id : ProductId} (hasks : p.manifest.AsksFor d name package)
    (hfound : (s.assembly parts.traits parts.discovery).resolveProduct
      ⟨p.identity, p.manifest, decl, name⟩ package = .ok (some id)) :
    id.package ∈ p.dependencies ∧ s.catalog.Vends id.package id.name ∧ s.Chooses g p d id := by
  have hdeps : p.dependencies = parts.discovery.edgesOf p.identity := (h.isPackage hp).dependencies
  cases package with
  | some package =>
    obtain ⟨dep, hdep, hloaded, rfl, hvends⟩ := Assembly.resolveQualified_some hfound
    exact ⟨hdeps ▸ hloaded, hvends, .qualified package hasks dep hdep rfl⟩
  | none =>
    obtain ⟨vendor, hloaded, rfl, hvends⟩ := Assembly.resolveUnqualified_some hfound
    -- No other loaded dependency offers a product of the name.
    have honly := Assembly.resolveUnqualified_only hfound
    refine ⟨hdeps ▸ hloaded, hvends, .unqualified hasks fun q hq hqdep hoffers => ?_⟩
    rw [hdeps] at hqdep
    exact honly q.identity hqdep ((h.vends_iff hq).2 hoffers)

/-- What an edge to a product stands for, in a module that stands for a declared one. -/
theorem productEdge {decl : ModuleDecl} {mod : Module}
    (hmod : (s.assembly parts.traits parts.discovery).IsModule p.identity p.manifest decl mod)
    {e : Edge} (he : e ∈ mod.edges) {id : ProductId} (htarget : e.target = .product id) :
    s.ProductEdge g p decl e id := by
  obtain ⟨links, hlinks, hedges, -⟩ := hmod.links
  rw [hedges] at he
  -- The edge comes from an enabled dependency, which is resolved to the product.
  obtain ⟨d, hd, hen, ht, hconditions⟩ := Assembly.links_traced hlinks e he
  rw [htarget] at ht
  obtain ⟨name, package, hasks, hfound⟩ := Assembly.exists_asksFor ht
  obtain ⟨hloaded, hvends, hchooses⟩ := h.chooses hp hasks hfound
  have htraits : p.enabledTraits = (s.assembly parts.traits parts.discovery).traits.of p.identity :=
    (h.isPackage hp).enabledTraits
  rw [← htraits] at hen
  exact ⟨hloaded, h.exists_declared hp hloaded, h.exists_offers hp hloaded hvends,
    d, hd, hen, hconditions, hchooses⟩

end BuiltFrom

/-- In a loaded graph, the modules of a package stand for the declared ones, and every edge to a
product stands for an enabled dependency of its module: the product is offered by a package of the
graph on which the package depends by declaration, and nothing else can be meant. -/
theorem load_product_edges {s : Source} {g : Graph} (h : s.load.result = .ok g) :
    ∀ p ∈ g.packages.toList, List.Forall₂ (s.TracesProducts g p)
      (p.manifest.modules.filter (Assembly.hasModule p.isRoot)) p.modules := by
  obtain ⟨parts, hbuilt⟩ := exists_builtFrom h
  intro p hp
  refine (hbuilt.modules hp).imp fun decl mod hmod => ?_
  exact ⟨hmod.name, hmod.kind, fun e he id htarget => hbuilt.productEdge hp hmod he htarget⟩

end Source

/-- A package that takes one product by name alone and one from the package that it names, while a
third package has a test product of the first name. -/
def hiddenNamesake : Source :=
  Source.ofManifests
    [{ Manifest.bare (.root ⟨"app"⟩) "App" with
        modules := [⟨"App", .library, none,
          [⟨.byName "Log", none⟩, ⟨.product "Net" (some "KIT") KeyedSet.empty, none⟩]⟩]
        dependencies :=
          [.onRegistry "log" none, .onRegistry "kit" none, .onRegistry "probe" none] },
      { Manifest.bare (.registry "log") "Log" with
        modules := [⟨"Log", .library, none, []⟩]
        products := [⟨"Log", .library, ["Log"]⟩] },
      { Manifest.bare (.registry "kit") "Kit" with
        modules := [⟨"Net", .library, none, []⟩]
        products := [⟨"Net", .library, ["Net"]⟩] },
      { Manifest.bare (.registry "probe") "Probe" with
        modules := [⟨"Probe", .library, none, []⟩, ⟨"LogTests", .test, none, []⟩]
        products := [⟨"Log", .test, ["LogTests"]⟩] }]

/-- A test product of a package that is no root does not make the name ambiguous. -/
theorem load_product_edges_hiddenNamesake :
    ∃ g, hiddenNamesake.load.result = .ok g ∧
      (∃ p ∈ g.packages.toList, p.modules.map (fun m => m.edges.map (·.target)) =
        [[.product ⟨⟨"log"⟩, "Log"⟩, .product ⟨⟨"kit"⟩, "Net"⟩]]) ∧
      ∀ p ∈ g.packages.toList, List.Forall₂ (hiddenNamesake.TracesProducts g p)
        (p.manifest.modules.filter (Assembly.hasModule p.isRoot)) p.modules := by
  have hany : (hiddenNamesake.load.result.toOption.any fun g => decide (
      ∃ p ∈ g.packages.toList, p.modules.map (fun m => m.edges.map (·.target)) =
        [[.product ⟨⟨"log"⟩, "Log"⟩, .product ⟨⟨"kit"⟩, "Net"⟩]])) = true := by
    decide +kernel
  obtain ⟨g, h, hedges⟩ := Except.exists_ok_of_any hany
  exact ⟨g, h, of_decide_eq_true hedges, Source.load_product_edges h⟩

end ModuleGraph
