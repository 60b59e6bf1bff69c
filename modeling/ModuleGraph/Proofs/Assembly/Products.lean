import ModuleGraph.Proofs.Assembly.Packages

/-!
# Which products a package has

The products of a package are the declared ones, one by one, and after them those that are added to
a root.  All of them are made of modules of the package: a declared product has as its members the
modules that the declaration names, and one that is added has test modules or library modules.

## Key results

- `memberOf_ok`, `declaredProduct_ok`: a declared product has the modules that it names
- `exists_of_mem_addedProducts`: a product that is added is made of modules of the package
- `assemble_products`: the products of a package
- `package_platforms`: the platforms of products
- `products_within`: every product of a package is made of modules of the package
-/

namespace ModuleGraph.Assembly

/-- A product stands for a declared one; its members are the modules that the declaration names. -/
structure IsProduct (p : Package) (decl : ProductDecl) (q : Product) : Prop where
  id : q.id = ⟨p.identity, decl.name⟩
  kind : q.kind = decl.kind
  modules : q.modules = decl.modules.filterMap fun name => (p.module? name).map Module.id

/-- A package before products were added to it, its requests for other names left out. -/
def staged (p : Package) : Staged := ⟨p.identity, p.manifest, p.isRoot, p.modules, []⟩

section
variable {a : Assembly} {table : AliasTable} {s : Staged} {p : Package}

/-! ### Declared products -/

/-- A member of a declared product is the first module of its name. -/
theorem memberOf_ok {id : Identity} {modules : List Module} {product name : String}
    {found : Option ModuleId} (h : (memberOf id modules product name).result = .ok found) :
    found = (modules.find? (·.name == name)).map Module.id := by
  unfold memberOf at h
  cases hfind : modules.find? (·.name == name) with
  | some m =>
    rw [hfind] at h
    exact (Except.ok.inj h).symm
  | none =>
    rw [hfind] at h
    exact (Except.ok.inj h).symm

/-- A declared product has its kind and is made of the modules that it names. -/
theorem declaredProduct_ok {decl : ProductDecl} {q : Product}
    (h : (a.declaredProduct table s decl).result = .ok q) :
    q.id = ⟨s.identity, decl.name⟩ ∧ q.kind = decl.kind ∧
      q.modules = decl.modules.filterMap fun name =>
        (s.modules.find? (·.name == name)).map Module.id := by
  unfold declaredProduct at h
  obtain ⟨members, hmembers, h⟩ := Logged.bind_eq_ok.1 h
  obtain ⟨aliases, -, h⟩ := Logged.bind_eq_ok.1 h
  cases h
  have hmap : decl.modules.map (fun name => (s.modules.find? (·.name == name)).map Module.id) =
      members.map id := by
    have hall := Logged.mapList_eq_ok.1 hmembers
    exact hall.map_eq fun name found hfound => (memberOf_ok hfound).symm
  rw [List.map_id] at hmap
  refine ⟨rfl, rfl, ?_⟩
  show members.filterMap id = _
  rw [← hmap, List.filterMap_map]
  rfl

/-! ### Products that are added -/

/-- A product that is added is made of modules of a root package. -/
theorem exists_of_mem_addedProducts {q : Product} (h : q ∈ a.addedProducts s) :
    ∃ (name : String) (kind : ProductKind) (made : List Module), (∀ m ∈ made, m ∈ s.modules) ∧
      q = a.addedProduct s name kind (made.map Module.id) := by
  unfold addedProducts at h
  split at h
  · cases List.mem_append.1 h with
    | inl h =>
      unfold addedTestProducts at h
      dsimp only at h
      split at h
      · -- A test product of its own for each test.
        obtain ⟨t, ht, rfl⟩ := List.mem_map.1 h
        have htest := (List.mem_filter.1 ht).1
        have hmem := (List.mem_filter.1 htest).1
        exact ⟨t.name, .test, [t], by simpa using hmem, rfl⟩
      · -- One for all of them, or none.
        split at h
        · exact nomatch h
        · exact ⟨_, .test, testModules s, fun m hm => (List.mem_filter.1 hm).1,
            List.mem_singleton.1 h⟩
    -- The session, made of the libraries.
    | inr h =>
      unfold addedReplProducts at h
      dsimp only at h
      split at h
      · exact ⟨_, .dynamicLibrary, _, fun m hm => (List.mem_filter.1 hm).1,
          List.mem_singleton.1 h⟩
      · exact nomatch h
  · exact nomatch h

/-- Which products are added does not depend on requests for other names. -/
theorem addedProducts_staged (hid : p.identity = s.identity) (hm : p.manifest = s.manifest)
    (hroot : p.isRoot = s.isRoot) (hmods : p.modules = s.modules) :
    a.addedProducts (staged p) = a.addedProducts s := by
  cases s
  unfold staged
  rw [hid, hm, hroot, hmods]
  rfl

/-! ### All products of a package -/

/-- The products of a package are the declared ones and those that are added. -/
theorem package_products (h : (a.package table s).result = .ok p) :
    ∃ declared, List.Forall₂ (IsProduct p)
        (p.manifest.products.filter (hasProduct p.isRoot)) declared ∧
      p.products = declared ++ a.addedProducts (staged p) := by
  obtain ⟨hid, hm, hroot, hmods, -⟩ := package_ok h
  unfold package at h
  obtain ⟨declared, hdeclared, h⟩ := Logged.bind_eq_ok.1 h
  refine ⟨declared, ?_, ?_⟩
  · rw [hm, hroot]
    -- Each declared product is made of its own declaration.
    refine (Logged.mapList_eq_ok.1 hdeclared).imp fun decl q hq => ?_
    obtain ⟨hname, hkind, hmembers⟩ := declaredProduct_ok hq
    exact ⟨by rw [hname, hid], hkind, by rw [hmembers, ← hmods]; rfl⟩
  · rw [addedProducts_staged hid hm hroot hmods]
    cases h
    rfl

/-- Every package is made of a staged one. -/
theorem exists_package {assembled : Assembled} (h : a.assemble.result = .ok assembled)
    (hp : p ∈ assembled.packages) : ∃ table s, (a.package table s).result = .ok p := by
  unfold assemble at h
  obtain ⟨staged, -, h⟩ := Logged.bind_eq_ok.1 h
  obtain ⟨packages, hpackages, h⟩ := Logged.bind_eq_ok.1 h
  cases h
  obtain ⟨s, -, hs⟩ := (Logged.mapList_eq_ok.1 hpackages).exists_of_mem_right hp
  exact ⟨_, s, hs⟩

/-- The products of all packages are the declared ones and those that are added. -/
theorem assemble_products {assembled : Assembled} (h : a.assemble.result = .ok assembled)
    (hp : p ∈ assembled.packages) :
    ∃ declared, List.Forall₂ (IsProduct p)
        (p.manifest.products.filter (hasProduct p.isRoot)) declared ∧
      p.products = declared ++ a.addedProducts (staged p) := by
  obtain ⟨_, _, hs⟩ := exists_package h hp
  exact package_products hs

/-- The products of a package are for the platforms of its manifest, tests for raised ones. -/
theorem package_platforms (h : (a.package table s).result = .ok p) {q : Product}
    (hq : q ∈ p.products) : q.platforms = a.platforms p.manifest q.isTest := by
  unfold package at h
  obtain ⟨declared, hdeclared, h⟩ := Logged.bind_eq_ok.1 h
  cases h
  cases List.mem_append.1 hq with
  -- Declared products and added ones get their platforms in the same way.
  | inl hq =>
    obtain ⟨decl, -, hok⟩ := (Logged.mapList_eq_ok.1 hdeclared).exists_of_mem_right hq
    unfold declaredProduct at hok
    obtain ⟨members, -, hok⟩ := Logged.bind_eq_ok.1 hok
    obtain ⟨aliases, -, hok⟩ := Logged.bind_eq_ok.1 hok
    cases hok
    rfl
  | inr hq =>
    obtain ⟨name, kind, made, -, rfl⟩ := exists_of_mem_addedProducts hq
    rfl

/-- Every product of a package is made of modules of the package. -/
theorem products_within {assembled : Assembled} (h : a.assemble.result = .ok assembled)
    (hp : p ∈ assembled.packages) {q : Product} (hq : q ∈ p.products) :
    q.id.package = p.identity ∧ ∀ id ∈ q.modules, ∃ m ∈ p.modules, m.id = id := by
  obtain ⟨declared, hdeclared, hproducts⟩ := assemble_products h hp
  rw [hproducts] at hq
  cases List.mem_append.1 hq with
  | inl hq =>
    -- Names that are no modules of the package have been left out of its members.
    obtain ⟨decl, -, hproduct⟩ := hdeclared.exists_of_mem_right hq
    refine ⟨by rw [hproduct.id], fun id hid => ?_⟩
    rw [hproduct.modules] at hid
    obtain ⟨name, -, hname⟩ := List.mem_filterMap.1 hid
    obtain ⟨m, hfind, rfl⟩ := Option.map_eq_some_iff.1 hname
    exact ⟨m, List.mem_of_find?_eq_some hfind, rfl⟩
  | inr hq =>
    obtain ⟨name, kind, made, hmade, rfl⟩ := exists_of_mem_addedProducts hq
    refine ⟨rfl, fun id hid => ?_⟩
    obtain ⟨m, hm, rfl⟩ := List.mem_map.1 hid
    exact ⟨m, hmade m hm, rfl⟩

/-- The ids of all modules and products of a package name the package. -/
theorem assemble_ids {assembled : Assembled} (h : a.assemble.result = .ok assembled)
    (hp : p ∈ assembled.packages) :
    (∀ m ∈ p.modules, m.id.package = p.identity) ∧ ∀ q ∈ p.products, q.id.package = p.identity := by
  obtain ⟨entry, -, hpackage⟩ := (assemble_ok h).exists_of_mem_right hp
  exact ⟨fun m hm => hpackage.package_of_mem hm, fun q hq => (products_within h hp hq).1⟩

end

end ModuleGraph.Assembly
