import ModuleGraph.Graph.Assembly.Products
import ModuleGraph.Proofs.List
import ModuleGraph.Proofs.Outcome

/-!
# What packages are assembled from

A package that is assembled has the manifest, edges, traits and filter that discovery and trait
resolution gave it, and its modules stand for the declared modules one by one.

## Key results

- `assemble_ok`: the packages stand for the entries of discovery one by one
- `IsPackage.package_of_mem`: the ids of modules name their package
-/

namespace ModuleGraph.Assembly

/-- A module stands for a declared one. -/
structure IsModule (a : Assembly) (id : Identity) (m : Manifest) (decl : ModuleDecl)
    (mod : Module) : Prop where
  name : mod.id = ⟨id, decl.name⟩
  kind : mod.kind = decl.kind
  links : ∃ l, a.links id m decl (a.traits.of id) = .ok l ∧ mod.edges = l.edges ∧
    mod.prebuilts = l.prebuilts
  platforms : mod.platforms = a.platforms m (decl.kind == .test)

/-- A package stands for an entry of discovery. -/
structure IsPackage (a : Assembly) (entry : Identity × Manifest) (p : Package) : Prop where
  identity : p.identity = entry.1
  manifest : p.manifest = entry.2
  isRoot : p.isRoot = a.catalog.isRoot entry.1
  dependencies : p.dependencies = a.discovery.edgesOf entry.1
  enabledTraits : p.enabledTraits = a.traits.of entry.1
  filter : p.filter = a.discovery.filterOf entry.1
  modules : List.Forall₂ (a.IsModule entry.1 entry.2)
    (entry.2.modules.filter (hasModule (a.catalog.isRoot entry.1))) p.modules

/-- A module that is assembled stands for the declared one. -/
theorem module_ok {a : Assembly} {id : Identity} {m : Manifest} {decl : ModuleDecl}
    {r : Module × List AliasRequest} (h : (a.module id m decl).result = .ok r) :
    a.IsModule id m decl r.1 := by
  unfold module at h
  obtain ⟨l, hl, h⟩ := Logged.bind_eq_ok.1 h
  obtain ⟨artifact, -, h⟩ := Logged.bind_eq_ok.1 h
  obtain ⟨sources, -, h⟩ := Logged.bind_eq_ok.1 h
  cases h
  exact ⟨rfl, rfl, ⟨l, hl, rfl, rfl⟩, rfl⟩

/-- A staged package has the modules of its entry. -/
theorem stage_ok {a : Assembly} {entry : Identity × Manifest} {s : Staged}
    (h : (a.stage entry).result = .ok s) :
    s.identity = entry.1 ∧ s.manifest = entry.2 ∧ s.isRoot = a.catalog.isRoot entry.1 ∧
      List.Forall₂ (a.IsModule entry.1 entry.2)
        (entry.2.modules.filter (hasModule (a.catalog.isRoot entry.1))) s.modules := by
  unfold stage at h
  obtain ⟨modules, hmodules, h⟩ := Logged.bind_eq_ok.1 h
  cases h
  refine ⟨rfl, rfl, rfl, List.forall₂_map_right_iff.2 ?_⟩
  exact (Logged.mapList_eq_ok.1 hmodules).imp fun _ _ hmod => module_ok hmod

/-- A package adds to a staged one what discovery and trait resolution gave it. -/
theorem package_ok {a : Assembly} {table : AliasTable} {s : Staged} {p : Package}
    (h : (a.package table s).result = .ok p) :
    p.identity = s.identity ∧ p.manifest = s.manifest ∧ p.isRoot = s.isRoot ∧
      p.modules = s.modules ∧ p.dependencies = a.discovery.edgesOf s.identity ∧
      p.enabledTraits = a.traits.of s.identity ∧ p.filter = a.discovery.filterOf s.identity := by
  unfold package at h
  obtain ⟨declared, -, h⟩ := Logged.bind_eq_ok.1 h
  cases h
  exact ⟨rfl, rfl, rfl, rfl, rfl, rfl, rfl⟩

/-- The packages stand for the entries of discovery one by one. -/
theorem assemble_ok {a : Assembly} {assembled : Assembled}
    (h : a.assemble.result = .ok assembled) :
    List.Forall₂ a.IsPackage a.entries assembled.packages := by
  unfold assemble at h
  obtain ⟨staged, hstaged, h⟩ := Logged.bind_eq_ok.1 h
  obtain ⟨packages, hpackages, h⟩ := Logged.bind_eq_ok.1 h
  cases h
  refine (Logged.mapList_eq_ok.1 hstaged).comp (Logged.mapList_eq_ok.1 hpackages)
    fun entry s p hs hp => ?_
  obtain ⟨hid, hm, hroot, hmods⟩ := stage_ok hs
  obtain ⟨hid', hm', hroot', hmods', hdeps, htraits, hfilter⟩ := package_ok hp
  exact ⟨hid'.trans hid, hm'.trans hm, hroot'.trans hroot, hid ▸ hdeps, hid ▸ htraits,
    hid ▸ hfilter, hmods' ▸ hmods⟩

/-- The ids of the modules of a package name the package. -/
theorem IsPackage.package_of_mem {a : Assembly} {entry : Identity × Manifest} {p : Package}
    (h : a.IsPackage entry p) {m : Module} (hm : m ∈ p.modules) : m.id.package = p.identity := by
  obtain ⟨decl, -, hmodule⟩ := h.modules.exists_of_mem_right hm
  rw [hmodule.name, h.identity]

/-- An entry of discovery is a package that was met and has a manifest. -/
theorem mem_entries (a : Assembly) (id : Identity) (m : Manifest) :
    (id, m) ∈ a.entries ↔ id ∈ a.discovery.order ∧ a.catalog.manifest? id = some m := by
  unfold entries
  simp only [List.mem_filterMap, Option.map_eq_some_iff, Prod.mk.injEq]
  constructor
  · rintro ⟨id', hid, m', hm, rfl, rfl⟩
    exact ⟨hid, hm⟩
  · intro ⟨hid, hm⟩
    exact ⟨id, hid, m, hm, rfl, rfl⟩

/-- No package has two entries if it was listed once. -/
theorem nodup_entries (a : Assembly) (h : a.discovery.order.Nodup) :
    (a.entries.map (·.1)).Nodup := by
  refine List.pairwise_map.2 (List.pairwise_filterMap.2 (h.imp fun {id id'} hne => ?_))
  intro entry hentry entry' hentry' heq
  obtain ⟨m, -, rfl⟩ := Option.map_eq_some_iff.1 hentry
  obtain ⟨m', -, rfl⟩ := Option.map_eq_some_iff.1 hentry'
  exact hne heq

end ModuleGraph.Assembly
