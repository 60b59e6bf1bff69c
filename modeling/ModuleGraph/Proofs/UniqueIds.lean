import ModuleGraph.Proofs.Assembly.AddedNames
import ModuleGraph.Proofs.LoadedGraph

/-!
# When ids are unique

A graph looks modules and products up by id, so it loses some of them if ids are repeated.  Ids name
their package and every package is loaded once, so an id can only be repeated in one package: by
declarations of one name, which nothing rejects, or by the product for interactive use, which is
added without asking whether its name is taken.

## Key results

- `Source.BuiltFrom.nodup_ids_iff`: when the ids in one package are distinct
- `Source.load_unique_iff`: when a graph has as many modules and products as its packages
-/

namespace ModuleGraph

open Assembly (staged replProductName)

/-- The names that a manifest declares are distinct, as far as they become part of the graph, and
the name of the product for interactive use is not taken where that product is added. -/
structure Package.NamesApart (o : Options) (p : Package) : Prop where
  modules : ((p.manifest.modules.filter (Assembly.hasModule p.isRoot)).map (·.name)).Nodup
  products : ((p.manifest.products.filter (Assembly.hasProduct p.isRoot)).map (·.name)).Nodup
  repl : p.isRoot = true → o.replProduct = true →
    (∃ decl ∈ p.manifest.modules, decl.kind = .library) →
      (∀ decl ∈ p.manifest.products, decl.name ≠ replProductName p.manifest) ∧
        (o.separateTestProducts = true → ∀ decl ∈ p.manifest.modules, decl.kind = .test →
          decl.name ≠ replProductName p.manifest)

namespace Graph

/-- The modules of all packages. -/
def packageModules (g : Graph) : List Module := g.packages.toList.flatMap (·.modules)

/-- The products of all packages. -/
def packageProducts (g : Graph) : List Product := g.packages.toList.flatMap (·.products)

end Graph

namespace Source.BuiltFrom

variable {s : Source} {g : Graph} {parts : Parts} (h : s.BuiltFrom g parts) {p : Package}
  (hp : p ∈ g.packages.toList)
include h hp

/-- The modules of a root have the names and kinds that its manifest declares. -/
theorem exists_module_of_root_iff (hroot : p.isRoot = true) {P : ModuleKind → String → Prop} :
    (∃ m ∈ p.modules, P m.kind m.name) ↔ ∃ decl ∈ p.manifest.modules, P decl.kind decl.name := by
  have hmodules := h.modules hp
  -- A root keeps its tests.
  have hall : p.manifest.modules.filter (Assembly.hasModule true) = p.manifest.modules :=
    List.filter_eq_self.2 fun decl _ => rfl
  rw [hroot, hall] at hmodules
  constructor
  · rintro ⟨m, hm, hP⟩
    obtain ⟨decl, hdecl, hmodule⟩ := hmodules.exists_of_mem_right hm
    have hname : m.name = decl.name := congrArg ModuleId.name hmodule.name
    exact ⟨decl, hdecl, by rwa [← hmodule.kind, ← hname]⟩
  · rintro ⟨decl, hdecl, hP⟩
    obtain ⟨m, hm, hmodule⟩ := hmodules.exists_of_mem_left hdecl
    have hname : m.name = decl.name := congrArg ModuleId.name hmodule.name
    exact ⟨m, hm, by rwa [hmodule.kind, hname]⟩

/-- The modules of a package have the names that it declares. -/
theorem map_name_modules :
    p.modules.map Module.name =
      (p.manifest.modules.filter (Assembly.hasModule p.isRoot)).map (·.name) := by
  have hnames := (h.modules hp).map_eq (f := fun decl => decl.name) (g := Module.name)
    fun decl m hmodule => (congrArg ModuleId.name hmodule.name).symm
  exact hnames.symm

/-- The ids of the products of a package are made of names that are declared or added. -/
theorem map_id_products :
    p.products.map Product.id =
      ((p.manifest.products.filter (Assembly.hasProduct p.isRoot)).map (·.name) ++
        ((s.assembly parts.traits parts.discovery).addedProducts (staged p)).map
          Product.name).map (ProductId.mk p.identity) := by
  obtain ⟨declared, hdeclared, hproducts⟩ := h.products hp
  have hids := hdeclared.map_eq (f := fun decl => ProductId.mk p.identity decl.name)
    (g := Product.id) fun decl q hproduct => hproduct.id.symm
  -- The id of an added product names the package, too.
  have hadded : ((s.assembly parts.traits parts.discovery).addedProducts (staged p)).map
      Product.id = ((s.assembly parts.traits parts.discovery).addedProducts (staged p)).map
        fun q => ProductId.mk p.identity q.name := by
    refine List.map_congr_left fun q hq => ?_
    obtain ⟨name, kind, made, -, rfl⟩ := Assembly.exists_of_mem_addedProducts hq
    rfl
  rw [hproducts, List.map_append, List.map_append, List.map_map, List.map_map, hadded, ← hids]
  rfl

/-- The products of a package have the names that are declared or added. -/
theorem map_name_products :
    p.products.map Product.name =
      (p.manifest.products.filter (Assembly.hasProduct p.isRoot)).map (·.name) ++
        ((s.assembly parts.traits parts.discovery).addedProducts (staged p)).map Product.name := by
  have hids := congrArg (List.map ProductId.name) (h.map_id_products hp)
  have hname : ProductId.name ∘ ProductId.mk p.identity = id := rfl
  rw [List.map_map, List.map_map, hname, List.map_id] at hids
  exact hids

/-- The ids of the modules of a package are distinct exactly if their names are. -/
theorem nodup_modules_iff :
    (p.modules.map Module.id).Nodup ↔ (p.modules.map Module.name).Nodup := by
  have hinjective : Function.Injective (ModuleId.mk p.identity) :=
    fun x y heq => congrArg ModuleId.name heq
  have hids : p.modules.map Module.id =
      (p.modules.map Module.name).map (ModuleId.mk p.identity) := by
    rw [List.map_map]
    refine List.map_congr_left fun m hm => ?_
    rw [Function.comp_apply, ← (h.ids hp).1 m hm]
    rfl
  rw [hids, List.nodup_map_iff hinjective]

/-- The ids of the products of a package are distinct exactly if the names that are declared or
added are. -/
theorem nodup_products_iff :
    (p.products.map Product.id).Nodup ↔
      ((p.manifest.products.filter (Assembly.hasProduct p.isRoot)).map (·.name) ++
        ((s.assembly parts.traits parts.discovery).addedProducts (staged p)).map
          Product.name).Nodup := by
  have hinjective : Function.Injective (ProductId.mk p.identity) :=
    fun x y heq => congrArg ProductId.name heq
  rw [h.map_id_products hp, List.nodup_map_iff hinjective]

/-- The tests of a root have the names of those that its manifest declares. -/
theorem mem_testModules_iff (hroot : p.isRoot = true) {name : String} :
    name ∈ (Assembly.testModules (staged p)).map Module.name ↔
      ∃ decl ∈ p.manifest.modules, decl.kind = .test ∧ decl.name = name := by
  rw [← h.exists_module_of_root_iff hp hroot (P := fun kind n => kind = .test ∧ n = name)]
  simp [Assembly.testModules, staged, Module.isTest, and_assoc]

/-- In a package that is no root, ids are distinct exactly if the declared names are. -/
theorem nodup_ids_iff_of_notRoot (hroot : p.isRoot = false) :
    (p.modules.map Module.id).Nodup ∧ (p.products.map Product.id).Nodup ↔
      p.NamesApart s.options := by
  -- Nothing is added to a package that is no root.
  have hnone : (s.assembly parts.traits parts.discovery).addedProducts (staged p) = [] := by
    rw [Assembly.addedProducts, if_neg]
    simp [staged, hroot]
  rw [h.nodup_modules_iff hp, h.map_name_modules hp, h.nodup_products_iff hp, hnone, List.map_nil,
    List.append_nil]
  constructor
  · rintro ⟨hmodules, hproducts⟩
    exact ⟨hmodules, hproducts, fun htrue => absurd (hroot.symm.trans htrue) Bool.false_ne_true⟩
  · exact fun hapart => ⟨hapart.modules, hapart.products⟩

/-- In a root, ids are distinct exactly if the declared names and those that are added are. -/
theorem nodup_ids_iff_of_root (hroot : p.isRoot = true) :
    (p.modules.map Module.id).Nodup ∧ (p.products.map Product.id).Nodup ↔
      p.NamesApart s.options := by
  -- A root keeps all products that it declares.
  have hall : p.manifest.products.filter (Assembly.hasProduct p.isRoot) = p.manifest.products :=
    List.filter_eq_self.2 fun decl _ => by simp [Assembly.hasProduct, hroot]
  have hlibrary := h.exists_module_of_root_iff hp hroot (P := fun kind _ => kind = .library)
  have htests : replProductName p.manifest ∉ (Assembly.testModules (staged p)).map Module.name ↔
      ∀ decl ∈ p.manifest.modules, decl.kind = .test → decl.name ≠ replProductName p.manifest := by
    rw [h.mem_testModules_iff hp hroot]
    simp
  have hproducts := h.nodup_products_iff hp
  rw [hall] at hproducts
  -- What is added clashes with nothing if the modules are distinct, the session excepted.
  have hadded (hnames : (p.modules.map Module.name).Nodup) := Assembly.nodup_addedProducts_iff
    (a := s.assembly parts.traits parts.discovery) (s := staged p) hroot hnames
  rw [h.nodup_modules_iff hp, hproducts]
  constructor
  · intro ⟨hmodules, hnodup⟩
    obtain ⟨hdeclared, hrepl⟩ := (hadded hmodules).1 hnodup
    refine ⟨h.map_name_modules hp ▸ hmodules, by rwa [hall], fun _ hoption hsome => ?_⟩
    -- The session has a free name: no declared product has it, and no test product if these are
    -- separate.
    obtain ⟨hown, hseparate⟩ := hrepl hoption (hlibrary.2 hsome)
    exact ⟨fun decl hdecl heq => hown (List.mem_map.2 ⟨decl, hdecl, heq⟩),
      fun htrue => htests.1 (hseparate htrue)⟩
  · intro hapart
    have hmodules : (p.modules.map Module.name).Nodup := by
      rw [h.map_name_modules hp]
      exact hapart.modules
    refine ⟨hmodules, (hadded hmodules).2 ⟨hall ▸ hapart.products, fun hoption hsome => ?_⟩⟩
    obtain ⟨hown, hseparate⟩ := hapart.repl hroot hoption (hlibrary.1 hsome)
    refine ⟨fun hmem => ?_, fun htrue => htests.2 (hseparate htrue)⟩
    obtain ⟨decl, hdecl, heq⟩ := List.mem_map.1 hmem
    exact hown decl hdecl heq

/-- The ids of the modules and products of a package are distinct exactly if its names are. -/
theorem nodup_ids_iff :
    (p.modules.map Module.id).Nodup ∧ (p.products.map Product.id).Nodup ↔
      p.NamesApart s.options := by
  cases hroot : p.isRoot with
  | false => exact h.nodup_ids_iff_of_notRoot hp hroot
  | true => exact h.nodup_ids_iff_of_root hp hroot

end Source.BuiltFrom

/-- A loaded graph has as many modules and products as its packages have together exactly if their
ids are distinct.  That is the case if every package declares distinct names, and if the name of the
product for interactive use is not taken where that product is added. -/
theorem Source.load_unique_iff {s : Source} {g : Graph} (h : s.load.result = .ok g) :
    (g.allModules.size = g.packageModules.length ↔ (g.packageModules.map Module.id).Nodup) ∧
      (g.allProducts.size = g.packageProducts.length ↔
        (g.packageProducts.map Product.id).Nodup) ∧
      ((g.packageModules.map Module.id).Nodup ∧ (g.packageProducts.map Product.id).Nodup ↔
        ∀ p ∈ g.packages.toList, p.NamesApart s.options) := by
  obtain ⟨parts, hbuilt⟩ := exists_builtFrom h
  refine ⟨?_, ?_, ?_⟩
  · rw [hbuilt.allModules]
    exact KeyedSet.size_ofList_iff
  · rw [hbuilt.allProducts]
    exact KeyedSet.size_ofList_iff
  · -- Ids name their package, so ids are distinct exactly if they are so in every package.
    have hpackages := KeyedSet.nodup_keys g.packages
    have hmodules : (g.packageModules.map Module.id).Nodup ↔
        ∀ p ∈ g.packages.toList, (p.modules.map Module.id).Nodup :=
      List.nodup_map_flatMap_iff ModuleId.package hpackages fun p hp => (hbuilt.ids hp).1
    have hproducts : (g.packageProducts.map Product.id).Nodup ↔
        ∀ p ∈ g.packages.toList, (p.products.map Product.id).Nodup :=
      List.nodup_map_flatMap_iff ProductId.package hpackages fun p hp => (hbuilt.ids hp).2
    rw [hmodules, hproducts, ← forall₂_and]
    exact forall₂_congr fun p hp => hbuilt.nodup_ids_iff hp

/-- A root that declares a product under the name of the one for interactive use. -/
def takenName : Source :=
  { Source.ofManifests
      [{ Manifest.bare (.root ⟨"app"⟩) "App" with
          modules := [⟨"App", .library, none, []⟩, ⟨"Extra", .library, none, []⟩]
          products := [⟨"App", .library, ["App"]⟩, ⟨"App__REPL", .library, ["Extra"]⟩] }] with
    options := { Options.standard with replProduct := true } }

/-- The graph loses a product whose name is taken, and no module. -/
theorem load_unique_iff_takenName :
    ∃ g, takenName.load.result = .ok g ∧ g.allModules.size = g.packageModules.length ∧
      g.allProducts.size ≠ g.packageProducts.length := by
  have hloads : (takenName.load.result.toOption.any fun g => decide (
      (g.packageModules.map Module.id).Nodup ∧
        ∃ p ∈ g.packages.toList, p.isRoot = true ∧
          (∃ decl ∈ p.manifest.modules, decl.kind = .library) ∧
          ∃ decl ∈ p.manifest.products, decl.name = replProductName p.manifest)) = true := by
    decide +kernel
  obtain ⟨g, h, hg⟩ := Except.exists_ok_of_any hloads
  obtain ⟨hmodules, p, hp, hroot, hlibrary, decl, hdecl, hname⟩ := of_decide_eq_true hg
  obtain ⟨hmoduleSize, hproductSize, hapart⟩ := Source.load_unique_iff h
  refine ⟨g, h, hmoduleSize.2 hmodules, fun hsize => ?_⟩
  have hall := hapart.1 ⟨hmodules, hproductSize.1 hsize⟩
  exact ((hall p hp).repl hroot rfl hlibrary).1 decl hdecl hname

end ModuleGraph
