import ModuleGraph.Proofs.ActiveReferences
import ModuleGraph.Proofs.LoadedGraph

/-!
# What edges and members point at

Products are looked for where others may use them, so every edge to a product finds it, and a
product names only modules that it has found in its package.  Modules are looked for among all that
their package declares, though tests are part of the graph for roots only.  So an edge points at
nothing exactly if it points at a test module of its own package and the package is no root.

## Key results

- `Source.BuiltFrom.exists_means`: every edge stands for a declared dependency
- `Source.BuiltFrom.finds_vended`: an edge to a product finds it
- `Source.BuiltFrom.finds_module_iff`: when an edge to a module finds it
- `Source.load_finds_iff`: which edges point at something, and that all members do
-/

namespace ModuleGraph

/-- An edge points at a module or product that can be looked up. -/
def Lookup.Finds (l : Lookup) (e : Edge) : Prop :=
  match e.target with
  | .module id => ∃ m ∈ l.modules.toList, m.id = id
  | .product id => ∃ q ∈ l.products.toList, q.id = id

/-- A package declares test modules under this name and no others, and it is no root, so none of
them is part of the graph. -/
structure Package.OmitsTest (p : Package) (name : String) : Prop where
  notRoot : p.isRoot = false
  declared : (p.manifest.module? name).isSome = true
  tests : ∀ decl ∈ p.manifest.modules, decl.name = name → decl.kind = .test

/-- A package omits a module of a declared name exactly if it has no other module of the name. -/
theorem Package.omitsTest_iff {p : Package} {name : String}
    (hdeclared : (p.manifest.module? name).isSome = true) :
    p.OmitsTest name ↔
      ¬ ∃ decl ∈ p.manifest.modules.filter (Assembly.hasModule p.isRoot), decl.name = name := by
  constructor
  · rintro homits ⟨decl, hdecl, hname⟩
    obtain ⟨hmem, hhas⟩ := List.mem_filter.1 hdecl
    have htest := homits.tests decl hmem hname
    simp [Assembly.hasModule, homits.notRoot, htest] at hhas
  · intro hnone
    have hhidden : ∀ decl ∈ p.manifest.modules, decl.name = name →
        Assembly.hasModule p.isRoot decl = false := by
      intro decl hdecl hname
      cases hhas : Assembly.hasModule p.isRoot decl with
      | false => rfl
      | true => exact absurd ⟨decl, List.mem_filter.2 ⟨hdecl, hhas⟩, hname⟩ hnone
    -- The declared module is hidden, so the package is no root.
    obtain ⟨decl, hfind⟩ := Option.isSome_iff_exists.1 hdeclared
    have hname : decl.name = name := by simpa using List.find?_some hfind
    have hfirst := hhidden decl (List.mem_of_find?_eq_some hfind) hname
    rw [Assembly.hasModule, Bool.or_eq_false_iff] at hfirst
    refine ⟨hfirst.1, hdeclared, fun decl' hdecl' hname' => ?_⟩
    have hother := hhidden decl' hdecl' hname'
    rw [Assembly.hasModule, Bool.or_eq_false_iff] at hother
    simpa using hother.2

namespace Source.BuiltFrom

variable {s : Source} {g : Graph} {parts : Parts} (h : s.BuiltFrom g parts) {p : Package}
  (hp : p ∈ g.packages.toList)
include h hp

/-- Every edge of a module stands for an enabled dependency that the package declares. -/
theorem exists_means {m : Module} (hm : m ∈ p.modules) {e : Edge} (he : e ∈ m.edges) :
    ∃ decl ∈ p.manifest.modules, m.id = ⟨p.identity, decl.name⟩ ∧ ∃ d ∈ decl.dependencies,
      d.enabledBy p.enabledTraits = true ∧ e.conditions = d.conditions ∧
        s.Means p d e.target := by
  have hpackage := h.isPackage hp
  obtain ⟨decl, hdecl, hmodule⟩ := hpackage.modules.exists_of_mem_right hm
  obtain ⟨links, hlinks, hedges, -⟩ := hmodule.links
  rw [hedges] at he
  obtain ⟨d, hd, hen, ht, hconditions⟩ := Assembly.links_traced hlinks e he
  have hmeans := means_of_target hpackage.dependencies ht
  rw [← hpackage.enabledTraits] at hen
  exact ⟨decl, (List.mem_filter.1 hdecl).1, hmodule.name, d, hd, hen, hconditions, hmeans⟩

/-- A product of a dependency that others may use is part of the graph. -/
theorem finds_vended {id : Identity} (hid : id ∈ p.dependencies) {name : String}
    (hvends : s.catalog.Vends id name) : ∃ q ∈ g.allProducts.toList, q.id = ⟨id, name⟩ := by
  obtain ⟨p', hp', rfl⟩ := h.exists_dependency hp hid
  obtain ⟨hmanifest, hroot⟩ := h.manifest hp'
  obtain ⟨m, decl, hm, hdecl, htest⟩ := hvends
  have hsame : m = p'.manifest := Option.some.inj (hm.symm.trans hmanifest)
  subst hsame
  have hname : decl.name = name := by simpa using List.find?_some hdecl
  -- A vended product is no test, or one of a root, so the package has it.
  have hhas : Assembly.hasProduct p'.isRoot decl = true := by
    by_cases hkind : decl.kind = .test
    · simp [Assembly.hasProduct, hroot, htest hkind]
    · simp [Assembly.hasProduct, hkind]
  obtain ⟨declared, hdeclared, hproducts⟩ := h.products hp'
  have hmem := List.mem_filter.2 ⟨List.mem_of_find?_eq_some hdecl, hhas⟩
  obtain ⟨q, hq, hproduct⟩ := hdeclared.exists_of_mem_left hmem
  have hqp : q ∈ p'.products := by simp [hproducts, hq]
  exact h.exists_product_iff.2 ⟨p', hp', q, hqp, hname ▸ hproduct.id⟩

/-- A module of a package is part of the graph exactly if the package has not omitted it. -/
theorem finds_module_iff {name : String} :
    (∃ m ∈ g.allModules.toList, m.id = ⟨p.identity, name⟩) ↔
      ∃ decl ∈ p.manifest.modules.filter (Assembly.hasModule p.isRoot), decl.name = name := by
  have hmodules := h.modules hp
  rw [h.exists_module_iff]
  constructor
  · rintro ⟨p', hp', m, hm, hid⟩
    -- The id names the package, so the module is one of this package.
    have hidentity : p'.identity = p.identity := by
      rw [← (h.ids hp').1 m hm, hid]
    have hsame : p' = p := KeyedSet.key_inj hp' hp hidentity
    subst hsame
    obtain ⟨decl, hdecl, hmodule⟩ := hmodules.exists_of_mem_right hm
    have hname := hmodule.name.symm.trans hid
    exact ⟨decl, hdecl, congrArg ModuleId.name hname⟩
  · rintro ⟨decl, hdecl, rfl⟩
    obtain ⟨m, hm, hmodule⟩ := hmodules.exists_of_mem_left hdecl
    exact ⟨p, hp, m, hm, hmodule.name⟩

/-- An edge of a module of the package points at something unless it points at an omitted test. -/
theorem finds_iff {m : Module} (hm : m ∈ p.modules) {e : Edge} (he : e ∈ m.edges) :
    g.lookup.Finds e ↔
      ¬ ∃ name, e.target = .module ⟨p.identity, name⟩ ∧ p.OmitsTest name := by
  obtain ⟨-, -, -, d, -, -, -, hmeans⟩ := h.exists_means hp hm he
  unfold Lookup.Finds
  -- Cases on what the dependency means: products are always found.
  cases htarget : e.target with
  | module id =>
    rw [htarget] at hmeans
    cases hmeans with
    | module name _ hdeclared =>
      have hname : (∃ name', EdgeTarget.module ⟨p.identity, name⟩ = .module ⟨p.identity, name'⟩ ∧
          p.OmitsTest name') ↔ p.OmitsTest name := by
        constructor
        · rintro ⟨name', heq, homits⟩
          have hsame : name = name' := congrArg ModuleId.name (EdgeTarget.module.inj heq)
          exact hsame ▸ homits
        · exact fun homits => ⟨name, rfl, homits⟩
      rw [hname, Package.omitsTest_iff hdeclared, not_not]
      exact h.finds_module_iff hp
  | product id =>
    rw [htarget] at hmeans
    have hfound : ∃ q ∈ g.allProducts.toList, q.id = id := by
      cases hmeans with
      | qualified name _ _ dep _ _ hloaded hvends => exact h.finds_vended hp hloaded hvends
      | unqualified id _ hloaded hvends => exact h.finds_vended hp hloaded hvends
    constructor
    · rintro - ⟨name, heq, -⟩
      exact nomatch heq
    · exact fun _ => hfound

end Source.BuiltFrom

/-- An edge of a loaded graph points at a module or product of the graph, unless it points at a test
of its own package and the package is no root.  All members of products are modules of the graph. -/
theorem Source.load_finds_iff {s : Source} {g : Graph} (h : s.load.result = .ok g) :
    (∀ m ∈ g.allModules.toList, ∀ e ∈ m.edges, g.lookup.Finds e ↔
        ¬ ∃ p ∈ g.packages.toList, p.identity = m.id.package ∧
          ∃ name, e.target = .module ⟨p.identity, name⟩ ∧ p.OmitsTest name) ∧
      ∀ q ∈ g.allProducts.toList, ∀ id ∈ q.modules, ∃ m ∈ g.allModules.toList, m.id = id := by
  obtain ⟨parts, hbuilt⟩ := exists_builtFrom h
  constructor
  · intro m hm e he
    obtain ⟨p, hp, hmp⟩ := hbuilt.exists_package_of_module hm
    -- The package of a module is the one that its id names.
    have hid : m.id.package = p.identity := (hbuilt.ids hp).1 m hmp
    refine (hbuilt.finds_iff hp hmp he).trans (not_congr ?_)
    constructor
    · rintro ⟨name, htarget, homits⟩
      exact ⟨p, hp, hid.symm, name, htarget, homits⟩
    · rintro ⟨p', hp', hidentity, name, htarget, homits⟩
      have hsame : p' = p := KeyedSet.key_inj hp' hp (hidentity.trans hid)
      exact ⟨name, hsame ▸ htarget, hsame ▸ homits⟩
  · intro q hq id hid
    -- The members of a product are modules of its package.
    obtain ⟨p, hp, hqp⟩ := hbuilt.exists_package_of_product hq
    have hwithin := Assembly.products_within hbuilt.assemble_eq (hbuilt.mem_packages.1 hp) hqp
    exact hbuilt.exists_module_iff.2 ⟨p, hp, hwithin.2 id hid⟩

/-- A package that is no root, with a module that depends on a test of the package. -/
def omittedTest : Source :=
  Source.ofManifests
    [usingPackages (.root ⟨"app"⟩) "App" [("kit", "Kit")],
      { Manifest.bare (.registry "kit") "Kit" with
        modules := [⟨"Core", .library, none, []⟩,
          ⟨"Kit", .library, none, [⟨.module "Core", none⟩, ⟨.module "KitTests", none⟩]⟩,
          ⟨"KitTests", .test, none, []⟩]
        products := [⟨"Kit", .library, ["Kit"]⟩] }]

/-- The graph has an edge to the test that points at nothing, and one to another module. -/
theorem load_finds_iff_omittedTest :
    ∃ g m found lost, omittedTest.load.result = .ok g ∧ m ∈ g.allModules.toList ∧
      found ∈ m.edges ∧ g.lookup.Finds found ∧
      lost ∈ m.edges ∧ ¬ g.lookup.Finds lost := by
  have hloads : (omittedTest.load.result.toOption.any fun g => decide (
      ∃ m ∈ g.allModules.toList, (⟨.module ⟨⟨"kit"⟩, "Core"⟩, []⟩ : Edge) ∈ m.edges ∧
        (⟨.module ⟨⟨"kit"⟩, "KitTests"⟩, []⟩ : Edge) ∈ m.edges ∧ m.id.package = ⟨"kit"⟩ ∧
        ∃ p ∈ g.packages.toList, p.identity = ⟨"kit"⟩ ∧ p.isRoot = false ∧
          (p.manifest.module? "KitTests").isSome = true ∧
          (∀ decl ∈ p.manifest.modules, decl.name = "KitTests" → decl.kind = .test) ∧
          ∃ decl ∈ p.manifest.modules, decl.name = "Core" ∧ decl.kind ≠ .test)) = true := by
    decide +kernel
  obtain ⟨g, h, hg⟩ := Except.exists_ok_of_any hloads
  obtain ⟨m, hm, hfound, hlost, hpackage, p, hp, hid, hroot, hdeclared, htests, decl, hdecl,
    hname, hkind⟩ := of_decide_eq_true hg
  obtain ⟨hfinds, -⟩ := Source.load_finds_iff h
  refine ⟨g, m, _, _, h, hm, hfound, (hfinds m hm _ hfound).2 ?_, hlost, fun hfind => ?_⟩
  · -- `Core` is no test, so its package does not omit it.
    rintro ⟨p', hp', hid', name, htarget, homits⟩
    have hsame : p' = p := KeyedSet.key_inj hp' hp (hid'.trans (hpackage.trans hid.symm))
    have hcore : name = "Core" :=
      (congrArg ModuleId.name (EdgeTarget.module.inj htarget)).symm
    subst hsame hcore
    exact hkind (homits.tests decl hdecl hname)
  · -- `KitTests` is a test of a package that is no root.
    refine (hfinds m hm _ hlost).1 hfind ⟨p, hp, hid.trans hpackage.symm, "KitTests", ?_,
      hroot, hdeclared, htests⟩
    rw [hid]

end ModuleGraph
