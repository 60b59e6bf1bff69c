import ModuleGraph.Proofs.DeclaredContent

/-!
# Which tests are members of test products

A root gets its test products from two sides: those that it declares, with the members that they
name, and those that are added for the tests, unless a declared product has their name.  A declared
product keeps its name whatever it is made of, so a test is left out if its added product gives way
and no declared test product names it.

## Key results

- `Assembly.exists_addedTestProduct_iff`: when a test is a member of a product that is added
- `Assembly.IsProduct.mem_modules_iff`: the members of a declared product
- `Source.load_covers_tests_iff`: when a test is a member of a test product
- `crowdedOut_leaves_out`: a test that is a member of none
-/

namespace ModuleGraph

open Assembly (staged testModules testProductName)

/-- The name of the test product that is added for a test: that of the test, or that of the one
product for all tests. -/
def Assembly.addedTestName (o : Options) (m : Manifest) (test : String) : String :=
  if o.separateTestProducts then test else testProductName m

/-- The ways in which a test of a root becomes a member of a test product. -/
inductive Manifest.CoversTest (o : Options) (m : Manifest) (test : String) : Prop
  /-- A declared test product names it. -/
  | declared {decl : ProductDecl} (hdecl : decl ∈ m.products) (hkind : decl.kind = .test)
      (hname : test ∈ decl.modules) : CoversTest o m test
  /-- No declared product has the name of the one that is added for the test. -/
  | added (hfree : ∀ decl ∈ m.products, decl.name ≠ Assembly.addedTestName o m test) :
      CoversTest o m test

namespace Assembly

variable {a : Assembly} {s : Staged} {p : Package} {q : Product} {t : Module}

/-- What is added for tests is a test product. -/
theorem kind_of_mem_addedTestProducts (h : q ∈ a.addedTestProducts s) : q.kind = .test := by
  unfold addedTestProducts at h
  dsimp only at h
  split at h
  · obtain ⟨t, -, rfl⟩ := List.mem_map.1 h
    rfl
  · split at h
    · exact nomatch h
    · rw [List.mem_singleton.1 h]
      rfl

/-- What is added for interactive use is no test product. -/
theorem kind_of_mem_addedReplProducts (h : q ∈ a.addedReplProducts s) :
    q.kind = .dynamicLibrary := by
  unfold addedReplProducts at h
  dsimp only at h
  split at h
  · rw [List.mem_singleton.1 h]
    rfl
  · exact nomatch h

/-- A test is a member of a product that is added exactly if no declared product has the name of
that product. -/
theorem exists_addedTestProduct_iff (ht : t ∈ testModules s) :
    (∃ q ∈ a.addedTestProducts s, t.id ∈ q.modules) ↔
      (s.manifest.product? (addedTestName a.options s.manifest t.name)).isNone = true := by
  unfold addedTestProducts addedTestName
  dsimp only
  by_cases hseparate : a.options.separateTestProducts = true
  · rw [if_pos hseparate, if_pos hseparate]
    constructor
    · intro ⟨q, hq, hmem⟩
      obtain ⟨t', ht', rfl⟩ := List.mem_map.1 hq
      -- The product has one member, which has the name of the test.
      have hid : t.id = t'.id := List.mem_singleton.1 hmem
      have hname : t.name = t'.name := congrArg ModuleId.name hid
      rw [hname]
      exact (List.mem_filter.1 ht').2
    · intro hfree
      exact ⟨_, List.mem_map_of_mem (List.mem_filter.2 ⟨ht, hfree⟩), List.mem_singleton.2 rfl⟩
  · rw [if_neg hseparate, if_neg hseparate]
    have hsome : (testModules s).isEmpty = false := by
      rw [List.isEmpty_eq_false_iff]
      exact List.ne_nil_of_mem ht
    by_cases hfree : (s.manifest.product? (testProductName s.manifest)).isNone = true
    · simp only [hsome, hfree, Bool.not_true, Bool.or_false, Bool.false_eq_true, if_false,
        iff_true]
      exact ⟨_, List.mem_singleton.2 rfl, List.mem_map_of_mem ht⟩
    · simp [hsome, hfree]

/-- A module of a package is a member of a declared product exactly if the declaration names it. -/
theorem IsProduct.mem_modules_iff {decl : ProductDecl} (h : IsProduct p decl q)
    (hids : ∀ m ∈ p.modules, m.id.package = p.identity) (ht : t ∈ p.modules) :
    t.id ∈ q.modules ↔ t.name ∈ decl.modules := by
  rw [h.modules, List.mem_filterMap]
  constructor
  · intro ⟨name, hname, hmember⟩
    obtain ⟨m, hm, hid⟩ := Option.map_eq_some_iff.1 hmember
    have hfound : m.name = name := by simpa using List.find?_some hm
    have hsame : m.name = t.name := congrArg ModuleId.name hid
    rw [← hsame, hfound]
    exact hname
  · intro hname
    -- The first module of this name has the same id, even if it is another one.
    have hfinds : (p.module? t.name).isSome := by
      unfold Package.module?
      rw [List.find?_isSome]
      exact ⟨t, ht, by simp⟩
    obtain ⟨m, hm⟩ := Option.isSome_iff_exists.1 hfinds
    have hsame : m.name = t.name := by simpa using List.find?_some hm
    have hpackage : m.id.package = t.id.package := by
      rw [hids m (List.mem_of_find?_eq_some hm), hids t ht]
    have hid : m.id = t.id := congrArg₂ ModuleId.mk hpackage hsame
    exact ⟨t.name, hname, by rw [hm, Option.map_some, hid]⟩

end Assembly

namespace Source.BuiltFrom

variable {s : Source} {g : Graph} {parts : Parts} (h : s.BuiltFrom g parts) {p : Package}
  (hp : p ∈ g.packages.toList)
include h hp

/-- A test of a root is a member of a test product of the root exactly in one of these ways. -/
theorem exists_testProduct_iff (hroot : p.isRoot = true) {t : Module} (ht : t ∈ p.modules)
    (hkind : t.kind = .test) :
    (∃ q ∈ p.products, q.kind = .test ∧ t.id ∈ q.modules) ↔
      p.manifest.CoversTest s.options t.name := by
  obtain ⟨declared, hdeclared, hproducts⟩ := h.products hp
  have hids := (h.ids hp).1
  have htest : t ∈ testModules (staged p) :=
    List.mem_filter.2 ⟨ht, by simp [Module.isTest, hkind]⟩
  have hadded := Assembly.exists_addedTestProduct_iff
    (a := s.assembly parts.traits parts.discovery) htest
  rw [Assembly.product?_isNone_iff] at hadded
  have hstaged : (staged p).isRoot = true := hroot
  rw [hproducts, Assembly.addedProducts, if_pos hstaged]
  constructor
  · rintro ⟨q, hq, hqkind, hmem⟩
    rcases List.mem_append.1 hq with hq | hq
    · -- A declared product: its members are those whose names it lists.
      obtain ⟨decl, hdecl, hproduct⟩ := hdeclared.exists_of_mem_right hq
      have hname := (hproduct.mem_modules_iff hids ht).1 hmem
      exact .declared (List.mem_filter.1 hdecl).1 (hproduct.kind ▸ hqkind) hname
    · rcases List.mem_append.1 hq with hq | hq
      · -- An added test product: no declared product has its name.
        have hfree := hadded.1 ⟨q, hq, hmem⟩
        exact .added fun decl hdecl heq => hfree (List.mem_map.2 ⟨decl, hdecl, heq⟩)
      · -- A session is no test product.
        rw [Assembly.kind_of_mem_addedReplProducts hq] at hqkind
        cases hqkind
  · intro hcovers
    cases hcovers with
    | @declared decl hdecl hdkind hname =>
      -- A root has all products that it declares, the tests among them.
      have hcounts : decl ∈ p.manifest.products.filter (Assembly.hasProduct p.isRoot) :=
        List.mem_filter.2 ⟨hdecl, by simp [Assembly.hasProduct, hroot]⟩
      obtain ⟨q, hq, hproduct⟩ := hdeclared.exists_of_mem_left hcounts
      exact ⟨q, List.mem_append_left _ hq, hproduct.kind.trans hdkind,
        (hproduct.mem_modules_iff hids ht).2 hname⟩
    | added hfree =>
      -- A declared product of any kind would keep the test product from being added.
      have hnone : Assembly.addedTestName s.options p.manifest t.name ∉
          p.manifest.products.map (·.name) := by
        intro hmem
        obtain ⟨decl, hdecl, heq⟩ := List.mem_map.1 hmem
        exact hfree decl hdecl heq
      obtain ⟨q, hq, hmem⟩ := hadded.2 hnone
      exact ⟨q, List.mem_append_right _ (List.mem_append_left _ hq),
        Assembly.kind_of_mem_addedTestProducts hq, hmem⟩

/-- If no two products of a package have the same id, the graph has all of them. -/
theorem mem_allProducts_of_nodup (hnodup : (p.products.map Product.id).Nodup) {q : Product}
    (hq : q ∈ p.products) : q ∈ g.allProducts.toList := by
  rw [h.allProducts]
  apply KeyedSet.mem_ofList_of_unique (List.mem_flatMap.2 ⟨p, hp, hq⟩)
  intro q' hq' hid
  obtain ⟨p', hp', hmem⟩ := List.mem_flatMap.1 hq'
  -- A product with this id belongs to the same package.
  have hpackage : p'.identity = p.identity := by
    rw [← (h.ids hp').2 q' hmem, ← (h.ids hp).2 q hq]
    exact congrArg ProductId.package hid
  have hsame : p' = p := KeyedSet.key_inj hp' hp hpackage
  subst hsame
  exact List.inj_on_of_nodup_map hnodup hmem hq hid

/-- A product of the graph whose id names a package is one of its products. -/
theorem mem_products_of_package {q : Product} (hq : q ∈ g.allProducts.toList)
    (hid : q.id.package = p.identity) : q ∈ p.products := by
  obtain ⟨p', hp', hmem⟩ := h.exists_package_of_product hq
  have hpackage : p'.identity = p.identity := by
    rw [← (h.ids hp').2 q hmem, hid]
  have hsame : p' = p := KeyedSet.key_inj hp' hp hpackage
  exact hsame ▸ hmem

end Source.BuiltFrom

/-- In a loaded graph a test of a root package is a member of a test product of the package exactly
if a declared test product names it, or no declared product has the name of the product that is
added for it.  If the products of the package have ids of their own, the same holds for the products
that the graph looks up. -/
theorem Source.load_covers_tests_iff {s : Source} {g : Graph} (h : s.load.result = .ok g)
    {p : Package} (hp : p ∈ g.rootPackages.toList) {t : Module} (ht : t ∈ p.modules)
    (hkind : t.kind = .test) :
    ((∃ q ∈ p.products, q.kind = .test ∧ t.id ∈ q.modules) ↔
      p.manifest.CoversTest s.options t.name) ∧
    ((p.products.map Product.id).Nodup →
      ((∃ q ∈ g.allProducts.toList, q.id.package = p.identity ∧ q.kind = .test ∧
          t.id ∈ q.modules) ↔
        p.manifest.CoversTest s.options t.name)) := by
  obtain ⟨parts, hbuilt⟩ := exists_builtFrom h
  obtain ⟨hmem, hroot⟩ := hbuilt.mem_rootPackages.1 hp
  have hcovers := hbuilt.exists_testProduct_iff hmem hroot ht hkind
  refine ⟨hcovers, fun hnodup => ?_⟩
  -- With distinct ids, no product of the package is hidden by another one.
  rw [← hcovers]
  constructor
  · intro ⟨q, hq, hid, hqkind, hmember⟩
    exact ⟨q, hbuilt.mem_products_of_package hmem hq hid, hqkind, hmember⟩
  · intro ⟨q, hq, hqkind, hmember⟩
    exact ⟨q, hbuilt.mem_allProducts_of_nodup hmem hnodup hq, (hbuilt.ids hmem).2 q hq, hqkind,
      hmember⟩

/-- A root with two tests, one of which is a member of a declared test product. -/
def smokeTested : Source :=
  Source.ofManifests
    [{ Manifest.bare (.root ⟨"app"⟩) "App" with
        modules := [⟨"Core", .library, none, []⟩, ⟨"CoreTests", .test, none, []⟩,
          ⟨"SmokeTests", .test, none, []⟩]
        products := [⟨"Core", .library, ["Core"]⟩, ⟨"Smoke", .test, ["SmokeTests"]⟩] }]

/-- All tests of a root are members of test products that can be looked up. -/
theorem load_covers_tests_iff_smokeTested :
    ∃ g, smokeTested.load.result = .ok g ∧ ∃ p ∈ g.rootPackages.toList,
      (∃ t ∈ p.modules, t.kind = .test) ∧ ∀ t ∈ p.modules, t.kind = .test →
        ∃ q ∈ g.allProducts.toList, q.id.package = p.identity ∧ q.kind = .test ∧
          t.id ∈ q.modules := by
  have hany : (smokeTested.load.result.toOption.any fun g => decide (∃ p ∈ g.rootPackages.toList,
      (p.products.map Product.id).Nodup ∧ (∃ t ∈ p.modules, t.kind = .test) ∧
        ∀ decl ∈ p.manifest.products, decl.name ≠ testProductName p.manifest)) = true := by
    decide +kernel
  obtain ⟨g, h, hg⟩ := Except.exists_ok_of_any hany
  obtain ⟨p, hp, hnodup, htests, hfree⟩ := of_decide_eq_true hg
  refine ⟨g, h, p, hp, htests, fun t ht hkind => ?_⟩
  exact ((Source.load_covers_tests_iff h hp ht hkind).2 hnodup).2 (.added hfree)

/-- A root whose declared library has the name of the product for all tests. -/
def crowdedOut : Source :=
  Source.ofManifests
    [{ Manifest.bare (.root ⟨"app"⟩) "App" with
        modules := [⟨"Core", .library, none, []⟩, ⟨"CoreTests", .test, none, []⟩]
        products := [⟨"AppPackageTests", .library, ["Core"]⟩] }]

/-- No test product is added for the test of the root, so it is a member of none. -/
theorem crowdedOut_leaves_out :
    ∃ g, crowdedOut.load.result = .ok g ∧ ∃ p ∈ g.rootPackages.toList, ∃ t ∈ p.modules,
      t.kind = .test ∧ ¬ ∃ q ∈ g.allProducts.toList,
        q.id.package = p.identity ∧ q.kind = .test ∧ t.id ∈ q.modules := by
  have hany : (crowdedOut.load.result.toOption.any fun g => decide (
      ∃ p ∈ g.rootPackages.toList, ∃ t ∈ p.modules, t.kind = .test ∧
        ¬ ∃ q ∈ g.allProducts.toList, q.id.package = p.identity ∧ q.kind = .test ∧
          t.id ∈ q.modules)) = true := by
    decide +kernel
  obtain ⟨g, h, hg⟩ := Except.exists_ok_of_any hany
  exact ⟨g, h, of_decide_eq_true hg⟩

end ModuleGraph
