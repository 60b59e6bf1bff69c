import ModuleGraph.Proofs.UniqueIds

/-!
# What a graph has of the manifests

All modules and products of a graph are declared by the manifests of its packages, but for the
products that are added to root packages.  Tests of packages that are no roots are passed over: as
modules and as products, and so in everything that the inputs lead to, since steps stay among the
modules and products of the packages.

## Key results

- `Source.BuiltFrom.exists_module_iff_declares`, `Source.BuiltFrom.exists_product_iff_declares`:
  the ids in one package
- `Source.BuiltFrom.exists_package_of_reachable`: everything reachable belongs to a package
- `Source.load_holds_declared`: the ids of all modules and products of a graph
-/

namespace ModuleGraph

open Assembly (staged replProductName testProductName)

/-- The names of the products that a root gets beside those that it declares. -/
inductive Manifest.AddsProduct (o : Options) (m : Manifest) : String → Prop
  /-- One product has all tests. -/
  | allTests (hoption : o.separateTestProducts = false)
      (htest : ∃ decl ∈ m.modules, decl.kind = .test)
      (hfree : ∀ decl ∈ m.products, decl.name ≠ testProductName m) :
      AddsProduct o m (testProductName m)
  /-- A test has a product of its own. -/
  | ownTest (hoption : o.separateTestProducts = true) {test : ModuleDecl}
      (htest : test ∈ m.modules) (hkind : test.kind = .test)
      (hfree : ∀ decl ∈ m.products, decl.name ≠ test.name) : AddsProduct o m test.name
  /-- One product has all libraries for interactive use. -/
  | repl (hoption : o.replProduct = true) (hlibrary : ∃ decl ∈ m.modules, decl.kind = .library) :
      AddsProduct o m (replProductName m)

namespace Graph

/-- A package of the graph declares a module with this id, which is no test unless the package is a
root. -/
def DeclaresModule (g : Graph) (id : ModuleId) : Prop :=
  ∃ p ∈ g.packages.toList, p.identity = id.package ∧ ∃ decl ∈ p.manifest.modules,
    decl.name = id.name ∧ (decl.kind = .test → p ∈ g.rootPackages.toList)

/-- A package of the graph declares a product with this id, which is no test unless the package is a
root. -/
def DeclaresProduct (g : Graph) (id : ProductId) : Prop :=
  ∃ p ∈ g.packages.toList, p.identity = id.package ∧ ∃ decl ∈ p.manifest.products,
    decl.name = id.name ∧ (decl.kind = .test → p ∈ g.rootPackages.toList)

/-- A root package gets a product with this id that it need not declare. -/
def AddsProduct (g : Graph) (o : Options) (id : ProductId) : Prop :=
  ∃ p ∈ g.rootPackages.toList, p.identity = id.package ∧ p.manifest.AddsProduct o id.name

end Graph

namespace Source.BuiltFrom

variable {s : Source} {g : Graph} {parts : Parts} (h : s.BuiltFrom g parts)
include h

section
variable {p : Package} (hp : p ∈ g.packages.toList)
include hp

/-! ### The ids in a package -/

/-- The tests of a package count if it is a root package. -/
theorem counts_iff {P : Prop} : (P → p ∈ g.rootPackages.toList) ↔ p.isRoot = true ∨ ¬ P := by
  rw [h.mem_rootPackages]
  by_cases hP : P <;> simp [hP, hp]

/-- A package has a module with an id exactly if the id names the package and one of its modules. -/
theorem exists_moduleId_iff {id : ModuleId} :
    (∃ m ∈ p.modules, m.id = id) ↔
      p.identity = id.package ∧ ∃ m ∈ p.modules, m.name = id.name := by
  constructor
  · rintro ⟨m, hm, rfl⟩
    exact ⟨((h.ids hp).1 m hm).symm, m, hm, rfl⟩
  · rintro ⟨hid, m, hm, hname⟩
    exact ⟨m, hm, congrArg₂ ModuleId.mk (((h.ids hp).1 m hm).trans hid) hname⟩

/-- A package has a product with an id exactly if the id names the package and one of its
products. -/
theorem exists_productId_iff {id : ProductId} :
    (∃ q ∈ p.products, q.id = id) ↔
      p.identity = id.package ∧ ∃ q ∈ p.products, q.name = id.name := by
  constructor
  · rintro ⟨q, hq, rfl⟩
    exact ⟨((h.ids hp).2 q hq).symm, q, hq, rfl⟩
  · rintro ⟨hid, q, hq, hname⟩
    exact ⟨q, hq, congrArg₂ ProductId.mk (((h.ids hp).2 q hq).trans hid) hname⟩

/-- A package has a module of a name exactly if it declares one that counts. -/
theorem exists_module_iff_declares {name : String} :
    (∃ m ∈ p.modules, m.name = name) ↔ ∃ decl ∈ p.manifest.modules,
      decl.name = name ∧ (decl.kind = .test → p ∈ g.rootPackages.toList) := by
  rw [← List.mem_map, h.map_name_modules hp]
  simp [Assembly.hasModule, h.counts_iff hp, and_assoc, and_comm]

/-- The products that are added to a root are those that its manifest calls for. -/
theorem mem_names_addedProducts_iff (hroot : p.isRoot = true) {name : String} :
    name ∈ ((s.assembly parts.traits parts.discovery).addedProducts (staged p)).map Product.name ↔
      p.manifest.AddsProduct s.options name := by
  have htests {n : String} : n ∈ (Assembly.testModules (staged p)).map Module.name ↔
      ∃ decl ∈ p.manifest.modules, decl.kind = .test ∧ decl.name = n :=
    h.mem_testModules_iff hp hroot
  have hsome : Assembly.testModules (staged p) ≠ [] ↔
      ∃ decl ∈ p.manifest.modules, decl.kind = .test := by
    rw [← h.exists_module_of_root_iff hp hroot (P := fun kind _ => kind = .test)]
    simp [Assembly.testModules, staged, Module.isTest]
  have hlibrary := h.exists_module_of_root_iff hp hroot (P := fun kind _ => kind = .library)
  have hfree {name : String} : name ∉ p.manifest.products.map (·.name) ↔
      ∀ decl ∈ p.manifest.products, decl.name ≠ name := by simp
  have hstaged : (staged p).isRoot = true := hroot
  -- The tests and the session are added separately, so the two sides are compared part by part.
  rw [Assembly.addedProducts, if_pos hstaged, List.map_append, List.mem_append,
    Assembly.mem_names_addedTestProducts, Assembly.mem_names_addedReplProducts]
  constructor
  · rintro (⟨hnew, hkind⟩ | ⟨hoption, hmade, rfl⟩)
    · split at hkind
      · next hoption =>
        -- Each test has a product of its own name.
        obtain ⟨test, hmem, htest, rfl⟩ := htests.1 hkind
        exact .ownTest hoption hmem htest (hfree.1 hnew)
      · next hoption =>
        -- All tests share one product.
        obtain ⟨hmade, rfl⟩ := hkind
        exact .allTests (Bool.not_eq_true _ ▸ hoption) (hsome.1 hmade) (hfree.1 hnew)
    · -- The session needs a library, and asks for no free name.
      exact .repl hoption (hlibrary.1 hmade)
  · intro hadds
    cases hadds with
    | allTests hoption htest hnew =>
      refine .inl ⟨hfree.2 hnew, ?_⟩
      -- `if_neg` wants the option as the assembly spells it.
      have hone : ¬ (s.assembly parts.traits parts.discovery).options.separateTestProducts = true :=
        (Bool.not_eq_true _).symm ▸ hoption
      rw [if_neg hone]
      exact ⟨hsome.2 htest, rfl⟩
    | ownTest hoption hmem htest hnew =>
      refine .inl ⟨hfree.2 hnew, ?_⟩
      have hown : (s.assembly parts.traits parts.discovery).options.separateTestProducts = true :=
        hoption
      rw [if_pos hown]
      exact htests.2 ⟨_, hmem, htest, rfl⟩
    | repl hoption hmade => exact .inr ⟨hoption, hlibrary.2 hmade, rfl⟩

/-- A package has a product of a name exactly if it declares one that counts or gets one. -/
theorem exists_product_iff_declares {name : String} :
    (∃ q ∈ p.products, q.name = name) ↔
      (∃ decl ∈ p.manifest.products,
        decl.name = name ∧ (decl.kind = .test → p ∈ g.rootPackages.toList)) ∨
      p ∈ g.rootPackages.toList ∧ p.manifest.AddsProduct s.options name := by
  rw [← List.mem_map, h.map_name_products hp, List.mem_append]
  apply or_congr
  · simp [Assembly.hasProduct, h.counts_iff hp, and_assoc, and_comm]
  · by_cases hroot : p.isRoot = true
    · rw [h.mem_names_addedProducts_iff hp hroot, h.mem_rootPackages]
      simp [hp, hroot]
    · rw [Assembly.addedProducts, h.mem_rootPackages]
      simp [staged, hroot]

/-! ### Tests -/

/-- A test of a package shows that it is a root. -/
theorem isRoot_of_testModule {m : Module} (hm : m ∈ p.modules) (hkind : m.kind = .test) :
    p ∈ g.rootPackages.toList := by
  obtain ⟨decl, hdecl, hmodule⟩ := (h.modules hp).exists_of_mem_right hm
  have hcounts := (List.mem_filter.1 hdecl).2
  rw [Assembly.hasModule, ← hmodule.kind, hkind] at hcounts
  exact h.mem_rootPackages.2 ⟨hp, by simpa using hcounts⟩

/-- A product for tests shows that its package is a root. -/
theorem isRoot_of_testProduct {q : Product} (hq : q ∈ p.products) (hkind : q.kind = .test) :
    p ∈ g.rootPackages.toList := by
  obtain ⟨declared, hdeclared, hproducts⟩ := h.products hp
  rw [hproducts] at hq
  apply h.mem_rootPackages.2 ⟨hp, _⟩
  rcases List.mem_append.1 hq with hq | hq
  · obtain ⟨decl, hdecl, hproduct⟩ := hdeclared.exists_of_mem_right hq
    have hcounts := (List.mem_filter.1 hdecl).2
    rw [Assembly.hasProduct, ← hproduct.kind, hkind] at hcounts
    simpa using hcounts
  · -- Products are added to roots only.
    by_contra hroot
    rw [Assembly.addedProducts] at hq
    simp [staged, hroot] at hq

end

/-! ### What the inputs lead to -/

/-- Everything that can be looked up belongs to a package of the graph. -/
theorem exists_package_of_node {x : Node} (hx : x ∈ g.lookup.nodes) :
    ∃ p ∈ g.packages.toList, x ∈ p.nodes := by
  cases x with
  | module m =>
    obtain ⟨p, hp, hm⟩ := h.exists_package_of_module (Lookup.module_mem_nodes.1 hx)
    exact ⟨p, hp, List.mem_append_left _ (List.mem_map_of_mem hm)⟩
  | product q =>
    obtain ⟨p, hp, hq⟩ := h.exists_package_of_product (Lookup.product_mem_nodes.1 hx)
    exact ⟨p, hp, List.mem_append_right _ (List.mem_map_of_mem hq)⟩

/-- Everything that the inputs lead to belongs to a package of the graph. -/
theorem exists_package_of_reached {nodes : List Node}
    (hclosure : g.lookup.closure none
      (((s.inputs parts.discovery).filterMap g.packages.find?).flatMap Package.nodes) = .ok nodes)
    {x : Node} (hx : x ∈ nodes) : ∃ p ∈ g.packages.toList, x ∈ p.nodes := by
  obtain ⟨a, ha, hwalk⟩ := Lookup.leads_of_closure hclosure hx
  cases hwalk with
  | refl =>
    obtain ⟨p, hp, hxp⟩ := List.mem_flatMap.1 ha
    exact ⟨p, (h.mem_inputs.1 hp).1, hxp⟩
  | tail _ hstep => exact h.exists_package_of_node hstep.mem_nodes

/-- Every module that the inputs lead to is a module of a package of the graph. -/
theorem exists_package_of_reachableModule {m : Module} (hm : m ∈ g.reachableModules.toList) :
    ∃ p ∈ g.packages.toList, m ∈ p.modules := by
  obtain ⟨nodes, hclosure, hmodules, -⟩ := h.madeOf.reached
  rw [hmodules] at hm
  have hnode := Lookup.mem_filterMap_module?.1 (KeyedSet.mem_of_mem_ofList hm)
  obtain ⟨p, hp, hx⟩ := h.exists_package_of_reached hclosure hnode
  exact ⟨p, hp, by simpa [Package.nodes] using hx⟩

/-- Every product that the inputs lead to is a product of a package of the graph. -/
theorem exists_package_of_reachableProduct {q : Product} (hq : q ∈ g.reachableProducts.toList) :
    ∃ p ∈ g.packages.toList, q ∈ p.products := by
  obtain ⟨nodes, hclosure, -, hproducts⟩ := h.madeOf.reached
  rw [hproducts] at hq
  have hnode := Lookup.mem_filterMap_product?.1 (KeyedSet.mem_of_mem_ofList hq)
  obtain ⟨p, hp, hx⟩ := h.exists_package_of_reached hclosure hnode
  exact ⟨p, hp, by simpa [Package.nodes] using hx⟩

end Source.BuiltFrom

/-- A loaded graph has the manifests that were found.  Its modules and products have the ids that
these declare, tests of packages that are no roots excepted, and those of the products that are
added to roots.  So all tests among them, and among what the inputs lead to, are those of roots. -/
theorem Source.load_holds_declared {s : Source} {g : Graph} (h : s.load.result = .ok g) :
    (∀ p ∈ g.packages.toList, s.catalog.manifest? p.identity = some p.manifest) ∧
      (∀ id, (∃ m ∈ g.allModules.toList, m.id = id) ↔ g.DeclaresModule id) ∧
      (∀ id, (∃ q ∈ g.allProducts.toList, q.id = id) ↔
        g.DeclaresProduct id ∨ g.AddsProduct s.options id) ∧
      (∀ m, m ∈ g.allModules.toList ∨ m ∈ g.reachableModules.toList → m.kind = .test →
        ∃ root ∈ g.rootPackages.toList, root.identity = m.id.package) ∧
      ∀ q, q ∈ g.allProducts.toList ∨ q ∈ g.reachableProducts.toList → q.kind = .test →
        ∃ root ∈ g.rootPackages.toList, root.identity = q.id.package := by
  obtain ⟨parts, hbuilt⟩ := exists_builtFrom h
  refine ⟨fun p hp => (hbuilt.manifest hp).1, fun id => ?_, fun id => ?_, fun m hm hkind => ?_,
    fun q hq hkind => ?_⟩
  · -- Modules, package by package.
    rw [hbuilt.exists_module_iff]
    refine exists_congr fun p => and_congr_right fun hp => ?_
    rw [hbuilt.exists_moduleId_iff hp, hbuilt.exists_module_iff_declares hp]
  · -- Products, of which roots have more than they declare.
    rw [hbuilt.exists_product_iff]
    constructor
    · rintro ⟨p, hp, hq⟩
      obtain ⟨hid, hname⟩ := (hbuilt.exists_productId_iff hp).1 hq
      rcases (hbuilt.exists_product_iff_declares hp).1 hname with hdecl | ⟨hroot, hadds⟩
      · exact .inl ⟨p, hp, hid, hdecl⟩
      · exact .inr ⟨p, hroot, hid, hadds⟩
    · rintro (⟨p, hp, hid, hdecl⟩ | ⟨p, hroot, hid, hadds⟩)
      · have hname := (hbuilt.exists_product_iff_declares hp).2 (.inl hdecl)
        exact ⟨p, hp, (hbuilt.exists_productId_iff hp).2 ⟨hid, hname⟩⟩
      · have hp := (hbuilt.mem_rootPackages.1 hroot).1
        have hname := (hbuilt.exists_product_iff_declares hp).2 (.inr ⟨hroot, hadds⟩)
        exact ⟨p, hp, (hbuilt.exists_productId_iff hp).2 ⟨hid, hname⟩⟩
  · -- A test that is a module is in a package, which is a root.
    have hpackage : ∃ p ∈ g.packages.toList, m ∈ p.modules :=
      hm.elim hbuilt.exists_package_of_module hbuilt.exists_package_of_reachableModule
    obtain ⟨p, hp, hmp⟩ := hpackage
    exact ⟨p, hbuilt.isRoot_of_testModule hp hmp hkind, ((hbuilt.ids hp).1 m hmp).symm⟩
  · -- And so is a test product.
    have hpackage : ∃ p ∈ g.packages.toList, q ∈ p.products :=
      hq.elim hbuilt.exists_package_of_product hbuilt.exists_package_of_reachableProduct
    obtain ⟨p, hp, hqp⟩ := hpackage
    exact ⟨p, hbuilt.isRoot_of_testProduct hp hqp hkind, ((hbuilt.ids hp).2 q hqp).symm⟩

/-- A root and a package that it uses, both with a test; the package has a product for its test. -/
def testedKit : Source :=
  Source.ofManifests
    [{ usingPackages (.root ⟨"/app"⟩) "App" [("kit", "Kit")] with
        modules := [⟨"App", .library, none, [⟨.product "Kit" (some "kit") KeyedSet.empty, none⟩]⟩,
          ⟨"AppTests", .test, none, [⟨.module "App", none⟩]⟩] },
      { Manifest.bare (.registry "kit") "Kit" with
        modules := [⟨"Kit", .library, none, []⟩, ⟨"KitTests", .test, none, []⟩]
        products := [⟨"Kit", .library, ["Kit"]⟩, ⟨"KitCheck", .test, ["KitTests"]⟩] }]

/-- The root gets a product for its test; the test of the package and the product for it are no part
of the graph. -/
theorem load_holds_declared_testedKit :
    ∃ g, testedKit.load.result = .ok g ∧
      (∃ q ∈ g.allProducts.toList, q.id = ⟨⟨"app"⟩, "AppPackageTests"⟩) ∧
      (∃ m ∈ g.allModules.toList, m.id = ⟨⟨"app"⟩, "AppTests"⟩) ∧
      (¬ ∃ m ∈ g.allModules.toList, m.id = ⟨⟨"kit"⟩, "KitTests"⟩) ∧
      ¬ ∃ q ∈ g.allProducts.toList, q.id = ⟨⟨"kit"⟩, "KitCheck"⟩ := by
  have hany : (testedKit.load.result.toOption.any fun g => decide (
      (∃ p ∈ g.rootPackages.toList, p ∈ g.packages.toList ∧ p.identity = ⟨"app"⟩ ∧
        (∃ test ∈ p.manifest.modules, test.name = "AppTests" ∧ test.kind = .test) ∧
        (∀ decl ∈ p.manifest.products, decl.name ≠ Assembly.testProductName p.manifest) ∧
        Assembly.testProductName p.manifest = "AppPackageTests") ∧
      (∀ root ∈ g.rootPackages.toList, root.identity ≠ ⟨"kit"⟩) ∧
      ∀ p ∈ g.packages.toList, p.identity = ⟨"kit"⟩ →
        (∀ decl ∈ p.manifest.modules, decl.name = "KitTests" → decl.kind = .test) ∧
        ∀ decl ∈ p.manifest.products, decl.name = "KitCheck" → decl.kind = .test)) = true := by
    decide +kernel
  obtain ⟨g, h, hg⟩ := Except.exists_ok_of_any hany
  obtain ⟨⟨app, hroot, hp, hid, ⟨test, htest, hname, hkind⟩, hfree, hadded⟩, hroots, hkit⟩ :=
    of_decide_eq_true hg
  -- What the manifests declare settles what the graph has.
  obtain ⟨-, hmodules, hproducts, -⟩ := Source.load_holds_declared h
  refine ⟨g, h, (hproducts _).2 (.inr ⟨app, hroot, hid, ?_⟩),
    (hmodules _).2 ⟨app, hp, hid, test, htest, hname, fun _ => hroot⟩, fun hm => ?_, fun hq => ?_⟩
  · rw [← hadded]
    exact .allTests rfl ⟨test, htest, hkind⟩ hfree
  · -- A test of `kit` would count only if `kit` were a root.
    obtain ⟨p, hp, hid, decl, hdecl, hname, hcounts⟩ := (hmodules _).1 hm
    exact hroots p (hcounts ((hkit p hp hid).1 decl hdecl hname)) hid
  · rcases (hproducts _).1 hq with ⟨p, hp, hid, decl, hdecl, hname, hcounts⟩ | ⟨p, hroot, hid, -⟩
    · exact hroots p (hcounts ((hkit p hp hid).2 decl hdecl hname)) hid
    · exact hroots p hroot hid

end ModuleGraph
