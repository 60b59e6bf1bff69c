import ModuleGraph.Graph.Nodes
import ModuleGraph.Proofs.Assembly.Products
import ModuleGraph.Proofs.Discovery.Exact
import ModuleGraph.Proofs.Load

/-!
# Modules and products with ids of their own

Discovery lists every package once, and the id of a module or product names its package.  So two
modules of a graph have the same id only if one package has two modules of one name, and so it is
with products.  Without such names, looking modules and products up by id loses none of them.

## Key results

- `Source.Assembles.distinctIds`: where names do not repeat in a package, ids do not repeat at all
- `Assembled.DistinctIds.mem_modules`, `Assembled.DistinctIds.mem_products`: what is looked up is
  what has been assembled
-/

namespace ModuleGraph

namespace Assembly.Assembled

/-- The modules of all packages. -/
def modules (a : Assembled) : List Module := a.packages.flatMap (·.modules)

/-- The products of all packages. -/
def products (a : Assembled) : List Product := a.packages.flatMap (·.products)

/-- All modules and products by id. -/
def lookup (a : Assembled) : Lookup := Lookup.ofPackages a.packages

/-- No two modules and no two products of a package have the same name. -/
def DistinctNames (a : Assembled) : Prop :=
  ∀ p ∈ a.packages, (p.modules.map Module.name).Nodup ∧ (p.products.map Product.name).Nodup

instance (a : Assembled) : Decidable a.DistinctNames :=
  inferInstanceAs (Decidable (∀ p ∈ a.packages, _))

/-- Packages, modules and products have ids of their own. -/
structure DistinctIds (a : Assembled) : Prop where
  packages : (a.packages.map Package.identity).Nodup
  modules : (a.modules.map Module.id).Nodup
  products : (a.products.map Product.id).Nodup

namespace DistinctIds

variable {a : Assembled} (h : a.DistinctIds)
include h

/-- The modules that can be looked up are those that have been assembled. -/
theorem mem_modules {m : Module} : m ∈ a.lookup.modules.toList ↔ m ∈ a.modules :=
  KeyedSet.mem_ofList_of_nodup h.modules

/-- The products that can be looked up are those that have been assembled. -/
theorem mem_products {p : Product} : p ∈ a.lookup.products.toList ↔ p ∈ a.products :=
  KeyedSet.mem_ofList_of_nodup h.products

/-- It does not matter for a lookup in which order packages are listed. -/
theorem lookup_sorted :
    Lookup.ofPackages (KeyedSet.ofList a.packages : PackageSet).toList = a.lookup := by
  have hperm := (KeyedSet.toList_ofList_perm h.packages).symm
  have hmodules := KeyedSet.ofList_perm (hperm.flatMap_right (·.modules)) h.modules
  have hproducts := KeyedSet.ofList_perm (hperm.flatMap_right (·.products)) h.products
  rw [lookup, Lookup.ofPackages, Lookup.ofPackages, hmodules, hproducts]

end DistinctIds

end Assembly.Assembled

/-- Packages are assembled once each, and modules and products under the id of their package. -/
theorem Source.Assembles.ids {s : Source} {a : Assembly.Assembled} (h : s.Assembles a) :
    (a.packages.map Package.identity).Nodup ∧ ∀ p ∈ a.packages,
      (∀ m ∈ p.modules, m.id.package = p.identity) ∧
        ∀ q ∈ p.products, q.id.package = p.identity := by
  obtain ⟨parts, hparts, rfl⟩ := h
  obtain ⟨-, hdiscover, hassemble⟩ := assembled_ok hparts
  refine ⟨?_, fun p hp => Assembly.assemble_ids hassemble hp⟩
  have hroots := Catalog.listsRoots_ofList s.mirrors s.manifests
  have htraced := Catalog.discover_traced hroots hdiscover
  have hentries := (s.assembly parts.traits parts.discovery).nodup_entries htraced.nodup
  have hids := (Assembly.assemble_ok hassemble).map_eq (f := (·.1)) (g := Package.identity)
    fun entry p hp => hp.identity.symm
  exact hids ▸ hentries

/-- Where module names do not repeat in a package, no two modules have the same id. -/
theorem nodup_moduleIds {packages : List Package}
    (hpackages : (packages.map Package.identity).Nodup)
    (hids : ∀ p ∈ packages, ∀ m ∈ p.modules, m.id.package = p.identity)
    (hnames : ∀ p ∈ packages, (p.modules.map Module.name).Nodup) :
    ((packages.flatMap (·.modules)).map Module.id).Nodup := by
  refine (List.nodup_map_flatMap_iff ModuleId.package hpackages hids).2 fun p hp => ?_
  have hnodup : ((p.modules.map Module.id).map ModuleId.name).Nodup := by
    rw [List.map_map]
    exact hnames p hp
  exact hnodup.of_map

/-- Where names do not repeat in a package, ids do not repeat at all. -/
theorem Source.Assembles.distinctIds {s : Source} {a : Assembly.Assembled} (h : s.Assembles a)
    (hnames : a.DistinctNames) : a.DistinctIds := by
  obtain ⟨hpackages, hids⟩ := h.ids
  refine ⟨hpackages, ?_, ?_⟩
  · exact nodup_moduleIds hpackages (fun p hp => (hids p hp).1) fun p hp => (hnames p hp).1
  · refine (List.nodup_map_flatMap_iff ProductId.package hpackages
      fun p hp => (hids p hp).2).2 fun p hp => ?_
    have hnodup : ((p.products.map Product.id).map ProductId.name).Nodup := by
      rw [List.map_map]
      exact (hnames p hp).2
    exact hnodup.of_map

end ModuleGraph
