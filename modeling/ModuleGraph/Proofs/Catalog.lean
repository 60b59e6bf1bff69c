import ModuleGraph.Graph.Catalog
import ModuleGraph.Proofs.KeyedSet

/-!
# What catalogs hold

A catalog has a package if there is a manifest for it, and a package vends the products that others
may use.  Manifests that say little are at hand for catalogs that show something.

## Key results

- `Catalog.has_iff`: a catalog has the packages with a manifest
- `Catalog.listsRoots_ofList`: the roots of a catalog are listed once each
- `Manifest.bare`, `Dependency.onRegistry`: manifests and dependencies that say little
-/

namespace ModuleGraph

/-- A catalog has the packages with a manifest. -/
theorem Catalog.has_iff {c : Catalog} {id : Identity} :
    c.has id = true ↔ ∃ m, c.manifest? id = some m := by
  rw [Catalog.has, SortedMap.contains_eq_isSome, Option.isSome_iff_exists]
  rfl

/-- A catalog has a package with a manifest that is added, and all that it had. -/
theorem Catalog.has_add {mirrors : Mirrors} {c : Catalog} {m : Manifest} {id : Identity} :
    (c.add mirrors m).has id = true ↔ id = mirrors.identify m.origin ∨ c.has id = true := by
  unfold Catalog.add
  dsimp only
  split
  · next hhas =>
    refine ⟨.inr, ?_⟩
    rintro (rfl | h)
    · exact hhas
    · exact h
  · exact KeyedSet.contains_insert

/-- Every root is listed once and has a manifest. -/
structure Catalog.ListsRoots (c : Catalog) : Prop where
  nodup : c.roots.Nodup
  has : ∀ id ∈ c.roots, c.has id = true

/-- A root that is added has had no manifest, so it has not been listed. -/
theorem Catalog.ListsRoots.add {mirrors : Mirrors} {c : Catalog} (hc : c.ListsRoots)
    (m : Manifest) : (c.add mirrors m).ListsRoots := by
  have hgrows (id : Identity) (h : c.has id = true) : (c.add mirrors m).has id = true :=
    Catalog.has_add.2 (.inr h)
  have hnew : (c.add mirrors m).has (mirrors.identify m.origin) = true :=
    Catalog.has_add.2 (.inl rfl)
  -- The list stays, or it gets an identity that had no manifest before.
  have hroots : (c.add mirrors m).roots = c.roots ∨
      c.has (mirrors.identify m.origin) = false ∧
        (c.add mirrors m).roots = c.roots ++ [mirrors.identify m.origin] := by
    unfold Catalog.add
    dsimp only
    split
    · exact .inl rfl
    · next hhas =>
      split
      · exact .inr ⟨by simpa using hhas, rfl⟩
      · exact .inl rfl
  rcases hroots with hroots | ⟨hhas, hroots⟩
  · exact ⟨hroots ▸ hc.nodup, fun id hid => hgrows id (hc.has id (hroots ▸ hid))⟩
  · refine ⟨?_, fun id hid => ?_⟩
    · rw [hroots]
      -- The identities that are listed have manifests, so the new one is not among them.
      refine List.nodup_append.2 ⟨hc.nodup, List.nodup_singleton _, fun a ha b hb heq => ?_⟩
      rw [heq, List.mem_singleton.1 hb] at ha
      simp [hc.has _ ha] at hhas
    · rw [hroots] at hid
      rcases List.mem_append.1 hid with hid | hid
      · exact hgrows id (hc.has id hid)
      · exact List.mem_singleton.1 hid ▸ hnew

/-- In the catalog of a list of manifests, every root is listed once and has a manifest. -/
theorem Catalog.listsRoots_ofList (mirrors : Mirrors) (manifests : List Manifest) :
    (Catalog.ofList mirrors manifests).ListsRoots :=
  List.foldlRecOn manifests (Catalog.add mirrors) ⟨.nil, fun _ h => nomatch h⟩
    fun _ hc m _ => hc.add m

/-- A package has a product that others may use. -/
def Catalog.Vends (c : Catalog) (id : Identity) (name : String) : Prop :=
  ∃ m product, c.manifest? id = some m ∧ m.product? name = some product ∧
    (product.kind = .test → c.isRoot id = true)

/-- A package without anything. -/
def Manifest.bare (origin : Origin) (name : String) : Manifest where
  displayName := name
  origin := origin
  version := none
  toolsVersion := .release 6 0 0
  checkout := none
  platforms := []
  modules := []
  products := []
  dependencies := []
  traits := []

/-- A dependency on a package of a registry. -/
def Dependency.onRegistry (name : String) (traits : Option (List String)) : Dependency :=
  ⟨.registry name, none, traits.map fun names => names.map fun t => ⟨t, none⟩⟩

end ModuleGraph
