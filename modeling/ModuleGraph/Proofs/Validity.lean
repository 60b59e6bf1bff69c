import ModuleGraph.Proofs.Assembly.Distinct
import ModuleGraph.Proofs.Nodes

/-!
# What the checks accept

Packages are checked for four things, one after the other.  Each check is a scan of its own: for
roots without anything, for a cycle of modules, for names that two packages claim, and for edges
that a plugin cannot have.  Each one either passes, and then its condition holds of all packages, or
fails for the first thing that breaks the condition.  None of this assumes that ids are distinct:
modules and products are always those that the lookup finds.

## Key results

- `checkRoots_cases`, `checkModules_cases`, `checkProducts_cases`, `checkPlugins_cases`: what a
  check accepts, and what it reports
- `refersTo_vendors`: which packages are named for a product name
- `check_ok_iff_wellFormed`: the checks accept exactly the well-formed packages, and report what is
  wrong first
-/

namespace ModuleGraph

/-- A plugin can use a module or a product. -/
def Node.FitsPlugin : Node → Prop
  | .module m =>
    m.kind = .library ∨ m.kind = .executable ∨ m.kind = .binary ∨ m.kind = .systemLibrary
  | .product q => q.kind.isLibrary = true ∨ q.kind = .executable ∨ q.kind = .plugin

namespace Assembly.Assembled

/-! ### Well-formed packages -/

/-- A root without modules and products. -/
def IsEmptyRoot (p : Package) : Prop := p.isRoot = true ∧ p.modules = [] ∧ p.products = []

/-- A package has a product of this name, no test, that is not used under other module names. -/
def Claims (a : Assembled) (p : Package) (name : String) : Prop :=
  ∃ q ∈ p.products, q.name = name ∧ q.kind ≠ .test ∧ q.id ∉ a.aliased.toList

/-- Two packages with different identities claim a name. -/
def SharesName (a : Assembled) (name : String) : Prop :=
  ∃ p ∈ a.packages, ∃ p' ∈ a.packages, p.identity ≠ p'.identity ∧
    a.Claims p name ∧ a.Claims p' name

/-- An edge points at something that can be looked up and that a plugin cannot use. -/
def Misfits (a : Assembled) (e : Edge) : Prop :=
  ∃ x, a.lookup.target? e = some x ∧ ¬ x.FitsPlugin

/-- The plugins of all packages. -/
def plugins (a : Assembled) : List Module := a.modules.filter fun m => m.kind == .plugin

/-- No root is empty. -/
def RootsFilled (a : Assembled) : Prop := ∀ p ∈ a.packages, ¬ IsEmptyRoot p

/-- No module uses itself, directly or not. -/
def UsesAcyclic (a : Assembled) : Prop := ∀ m, ¬ Relation.TransGen a.lookup.Uses m m

/-- No two packages claim one name. -/
def NamesOwn (a : Assembled) : Prop := ∀ name, ¬ a.SharesName name

/-- Plugins depend only on what they can use. -/
def PluginsFit (a : Assembled) : Prop :=
  ∀ p ∈ a.packages, ∀ m ∈ p.modules, m.kind = .plugin → ∀ e ∈ m.edges, ¬ a.Misfits e

/-- What the checks are for. -/
structure WellFormed (a : Assembled) : Prop where
  roots : a.RootsFilled
  modules : a.UsesAcyclic
  products : a.NamesOwn
  plugins : a.PluginsFit

/-- References to packages of a kind: every one of these is referred to, by its identity, no
reference is to another package, and no identity comes twice. -/
structure RefersTo (packages : Package → Prop) (refs : List Reference) : Prop where
  all : ∀ p, packages p → ∃ r ∈ refs, r.identity = p.identity
  only : ∀ r ∈ refs, ∃ p, packages p ∧ p.reference = r
  once : (refs.map Reference.identity).Nodup

/-- The error for something that a plugin cannot use. -/
def misfitError (plugin : Module) : Node → PackageError
  | .module m => .pluginDependency plugin.name m.name m.kind.write none
  | .product q => .pluginDependency plugin.name q.name q.kind.write (some q.id.package.name)

/-- The error for the first condition that packages break: those before it hold. -/
inductive FirstFault (a : Assembled) : PackageError → Prop
  /-- The first root without anything. -/
  | emptyRoot (p : Package) (hp : a.packages.FirstWith IsEmptyRoot p) :
      FirstFault a (.noModules p.identity.name)
  /-- A walk into a cycle of modules. -/
  | moduleCycle (hroots : a.RootsFilled) (w : Cycle Module) (hw : a.lookup.IsWalk w) :
      FirstFault a (.moduleCycle (w.path.map Module.name) (w.cycle.map Module.name))
  /-- The least name that is shared, with all packages that claim it. -/
  | duplicateProduct (hroots : a.RootsFilled) (hmodules : a.UsesAcyclic) (name : String)
      (refs : List Reference) (hshared : a.SharesName name)
      (hleast : ∀ other, a.SharesName other → other = name ∨ compare name other = .lt)
      (hrefs : RefersTo (fun p => p ∈ a.packages ∧ a.Claims p name) refs) :
      FirstFault a (.duplicateProduct name refs)
  /-- The first plugin with an edge that it cannot have, and the first such edge. -/
  | pluginDependency (hroots : a.RootsFilled) (hmodules : a.UsesAcyclic) (hproducts : a.NamesOwn)
      (plugin : Module) (hplugin : a.plugins.FirstWith (fun m => ∃ e ∈ m.edges, a.Misfits e) plugin)
      (e : Edge) (he : plugin.edges.FirstWith a.Misfits e) (x : Node)
      (hx : a.lookup.target? e = some x) : FirstFault a (misfitError plugin x)

/-! ### Roots and modules -/

/-- The check of roots passes if none is empty, or it reports the first that is. -/
theorem checkRoots_cases (a : Assembled) :
    (a.checkRoots = .ok () ∧ a.RootsFilled) ∨
      ∃ p, a.packages.FirstWith IsEmptyRoot p ∧
        a.checkRoots = .error (.package (.noModules p.identity.name)) := by
  have htest (p : Package) :
      (p.isRoot && p.modules.isEmpty && p.products.isEmpty) = true ↔ IsEmptyRoot p := by
    simp [IsEmptyRoot, and_assoc]
  cases hfind : a.packages.find? fun p => p.isRoot && p.modules.isEmpty && p.products.isEmpty with
  | none =>
    refine .inl ⟨by rw [checkRoots, hfind], fun p hp hempty => ?_⟩
    exact List.find?_eq_none.1 hfind p hp ((htest p).2 hempty)
  | some p =>
    exact .inr ⟨p, List.firstWith_of_find? htest hfind, by rw [checkRoots, hfind]⟩

/-- The error that reports a cycle. -/
def cycleError (w : Cycle Module) : GraphError :=
  .package (.moduleCycle (w.path.map Module.name) (w.cycle.map Module.name))

/-- The check of modules passes and there is no cycle, or it reports a walk into one. -/
theorem checkModules_cases (a : Assembled) :
    (a.checkModules = .ok () ∧
        ∀ m ∈ a.lookup.modules.toList, ¬ a.lookup.moduleGraph.OnCycle m) ∨
      ∃ w, a.lookup.IsWalk w ∧ a.checkModules = .error (cycleError w) := by
  have hdist := a.lookup.distinctKeys_moduleGraph
  have hcov := a.lookup.covers_moduleGraph
  cases hsort : a.lookup.moduleGraph.sort a.lookup.modules.toList with
  | ok sorted =>
    refine .inl ⟨?_, fun m hm hcycle => ?_⟩
    · unfold lookup at hsort
      unfold checkModules
      dsimp only
      rw [hsort]
    · obtain ⟨e, he⟩ := (hdist.sort_error_iff hcov).2 ⟨m, hm, m, .refl m, hcycle⟩
      rw [hsort] at he
      exact nomatch he
  | error e =>
    -- The sort has met a cycle, so the search finds one.
    obtain ⟨w, hfind⟩ := (hdist.exists_findCycle_iff hcov).2 ⟨e, hsort⟩
    refine .inr ⟨w, Lookup.isWalk_of_isLasso (hdist.isLasso hcov hfind), ?_⟩
    unfold lookup at hsort hfind
    unfold checkModules
    dsimp only
    rw [hsort]
    dsimp only
    rw [hfind]
    rfl

/-- Modules that have passed the check are on no cycle. -/
theorem acyclic_of_checkModules {a : Assembled} (hcheck : a.checkModules = .ok ()) :
    ∀ m ∈ a.lookup.modules.toList, ¬ a.lookup.moduleGraph.OnCycle m := by
  rcases a.checkModules_cases with ⟨-, hnone⟩ | ⟨w, -, herror⟩
  · exact hnone
  · rw [hcheck] at herror
    exact nomatch herror

/-- No module is on a cycle exactly if none uses itself. -/
theorem usesAcyclic_iff (a : Assembled) :
    a.UsesAcyclic ↔ ∀ m ∈ a.lookup.modules.toList, ¬ a.lookup.moduleGraph.OnCycle m := by
  constructor
  · intro hacyclic m hm hcycle
    exact hacyclic m ((Lookup.onCycle_iff hm).1 hcycle)
  · intro hnone m hcycle
    -- A module that is used can be looked up.
    have hm : m ∈ a.lookup.modules.toList := by
      cases hcycle with
      | single huses => exact huses.1
      | tail _ huses => exact huses.1
    exact hnone m hm ((Lookup.onCycle_iff hm).2 hcycle)

/-! ### Names of products -/

/-- Refers to one more package, unless its identity is there. -/
def addReference (p : Package) (refs : List Reference) : List Reference :=
  if refs.any (·.identity == p.identity) then refs else refs ++ [p.reference]

section
variable {packages : Package → Prop} {refs : List Reference}

/-- It matters only which packages are referred to. -/
theorem RefersTo.congr {packages' : Package → Prop} (h : RefersTo packages refs)
    (hiff : ∀ p, packages p ↔ packages' p) : RefersTo packages' refs where
  all := fun p hp => h.all p ((hiff p).2 hp)
  only := by
    intro r hr
    obtain ⟨p, hp, heq⟩ := h.only r hr
    exact ⟨p, (hiff p).1 hp, heq⟩
  once := h.once

/-- One more package is referred to. -/
theorem RefersTo.add (h : RefersTo packages refs) (p : Package) :
    RefersTo (fun p' => packages p' ∨ p' = p) (addReference p refs) := by
  have honly : ∀ r ∈ refs, ∃ p', (packages p' ∨ p' = p) ∧ p'.reference = r := by
    intro r hr
    obtain ⟨p', hp', heq⟩ := h.only r hr
    exact ⟨p', .inl hp', heq⟩
  unfold addReference
  -- Either a reference with the identity is there, or the new one is at the end.
  split
  · next hany =>
    obtain ⟨r, hr, hid⟩ := List.any_eq_true.1 hany
    refine ⟨fun p' hp' => ?_, honly, h.once⟩
    rcases hp' with hp' | rfl
    · exact h.all p' hp'
    · exact ⟨r, hr, beq_iff_eq.1 hid⟩
  · next hnew =>
    have hnew : ∀ r ∈ refs, r.identity ≠ p.identity := by simpa using hnew
    refine ⟨fun p' hp' => ?_, fun r hr => ?_, ?_⟩
    · rcases hp' with hp' | rfl
      · obtain ⟨r, hr, hid⟩ := h.all p' hp'
        exact ⟨r, List.mem_append_left _ hr, hid⟩
      · exact ⟨p'.reference, by simp, rfl⟩
    · cases List.mem_append.1 hr with
      | inl hr => exact honly r hr
      | inr hr => exact ⟨p, .inr rfl, (List.mem_singleton.1 hr).symm⟩
    · rw [List.map_append, List.nodup_append]
      refine ⟨h.once, List.nodup_singleton _, fun id hid id' hid' heq => ?_⟩
      obtain ⟨r, hr, rfl⟩ := List.mem_map.1 hid
      rw [List.map_singleton, List.mem_singleton] at hid'
      exact hnew r hr (heq.trans hid')

/-- More than one package is referred to exactly if there are two with different identities. -/
theorem RefersTo.one_lt_length_iff (h : RefersTo packages refs) :
    1 < refs.length ↔ ∃ p p', packages p ∧ packages p' ∧ p.identity ≠ p'.identity := by
  constructor
  · intro hlength
    match refs, hlength, h with
    | r :: r' :: refs, _, h =>
      obtain ⟨p, hp, rfl⟩ := h.only r (by simp)
      obtain ⟨p', hp', rfl⟩ := h.only r' (by simp)
      have honce := h.once
      simp only [List.map_cons, List.nodup_cons, List.mem_cons, not_or] at honce
      exact ⟨p, p', hp, hp', honce.1.1⟩
  · rintro ⟨p, p', hp, hp', hne⟩
    obtain ⟨r, hr, hid⟩ := h.all p hp
    obtain ⟨r', hr', hid'⟩ := h.all p' hp'
    -- A list of at most one reference has one identity only.
    match refs, hr, hr' with
    | [_], hr, hr' =>
      rw [List.mem_singleton] at hr hr'
      exact absurd (by rw [← hid, ← hid', hr, hr']) hne
    | _ :: _ :: _, _, _ => simp

end

/-- Packages are referred to when all have been added. -/
theorem refersTo_foldl (packages : List Package) :
    RefersTo (· ∈ packages) (packages.foldl (fun refs p => addReference p refs) []) := by
  induction packages using List.reverseRecOn with
  | nil => exact ⟨fun _ hp => (nomatch hp), fun _ hr => (nomatch hr), .nil⟩
  | append_singleton packages p ih =>
    rw [List.foldl_append]
    exact (ih.add p).congr fun p' => by simp

/-- The packages that claim a name, once for each product of the name. -/
def claimants (a : Assembled) (name : String) : List Package :=
  a.packages.flatMap fun p =>
    ((p.products.filter a.hasOwnName).filter (·.name = name)).map fun _ => p

section
variable {a : Assembled}

/-- The packages that claim a name. -/
theorem mem_claimants {p : Package} {name : String} :
    p ∈ a.claimants name ↔ p ∈ a.packages ∧ a.Claims p name := by
  have hown (q : Product) : a.hasOwnName q = true ↔ q.kind ≠ .test ∧ q.id ∉ a.aliased.toList := by
    simp [hasOwnName, ← SortedSet.contains_iff_mem]
  simp only [claimants, Claims, List.mem_flatMap, List.mem_map, List.mem_filter, hown,
    decide_eq_true_eq]
  constructor
  · rintro ⟨p', hp', q, ⟨⟨hq, hkind, halias⟩, hname⟩, rfl⟩
    exact ⟨hp', q, hq, hname, hkind, halias⟩
  · rintro ⟨hp, q, hq, hname, hkind, halias⟩
    exact ⟨p, hp, q, ⟨⟨hq, hkind, halias⟩, hname⟩, rfl⟩

/-- The packages that are named for a product name are those that claim it, once each. -/
theorem refersTo_vendors (a : Assembled) (name : String) :
    RefersTo (fun p => p ∈ a.packages ∧ a.Claims p name)
      (SortedMap.getD a.vendors name []) := by
  -- What the table has for a name is what has been added for this name, in order.
  have hvendors : SortedMap.getD a.vendors name [] =
      (a.claimants name).foldl (fun refs p => addReference p refs) [] := by
    have hfold := SortedMap.getD_foldl_update
      (a.packages.flatMap fun p => (p.products.filter a.hasOwnName).map fun q => (q.name, p))
      ([] : List Reference) addReference KeyedSet.empty name
    refine Eq.trans hfold ?_
    simp only [claimants, List.filter_flatMap, List.map_flatMap, List.filter_map, List.map_map]
    rfl
  rw [hvendors]
  exact (refersTo_foldl (a.claimants name)).congr fun _ => mem_claimants

/-- A name is shared exactly if more than one package is named for it. -/
theorem sharesName_iff {name : String} :
    a.SharesName name ↔ 1 < (SortedMap.getD a.vendors name []).length := by
  rw [(refersTo_vendors a name).one_lt_length_iff]
  constructor
  · rintro ⟨p, hp, p', hp', hne, hclaims, hclaims'⟩
    exact ⟨p, p', ⟨hp, hclaims⟩, ⟨hp', hclaims'⟩, hne⟩
  · rintro ⟨p, p', ⟨hp, hclaims⟩, ⟨hp', hclaims'⟩, hne⟩
    exact ⟨p, hp, p', hp', hne, hclaims, hclaims'⟩

end

/-- A name that is shared stands in the table with the packages that claim it. -/
theorem mem_vendors_of_sharesName {a : Assembled} {name : String} (h : a.SharesName name) :
    ∃ refs, (name, refs) ∈ a.vendors.toList ∧ 1 < refs.length := by
  have hlength := sharesName_iff.1 h
  unfold SortedMap.getD at hlength
  cases hget : SortedMap.get? a.vendors name with
  | none => simp [hget] at hlength
  | some refs => exact ⟨refs, SortedMap.get?_eq_some_iff.1 hget, by simpa [hget] using hlength⟩

/-- The check of product names passes if no name is shared, or it reports the least shared one with
all packages that claim it. -/
theorem checkProducts_cases (a : Assembled) :
    (a.checkProducts = .ok () ∧ a.NamesOwn) ∨
      ∃ name refs, a.SharesName name ∧
        (∀ other, a.SharesName other → other = name ∨ compare name other = .lt) ∧
        RefersTo (fun p => p ∈ a.packages ∧ a.Claims p name) refs ∧
        a.checkProducts = .error (.package (.duplicateProduct name refs)) := by
  cases hfind : a.vendors.toList.find? fun entry => 1 < entry.2.length with
  | none =>
    refine .inl ⟨by rw [checkProducts, hfind], fun name hshared => ?_⟩
    obtain ⟨refs, hmem, hlength⟩ := mem_vendors_of_sharesName hshared
    exact List.find?_eq_none.1 hfind _ hmem (decide_eq_true hlength)
  | some entry =>
    obtain ⟨name, refs⟩ := entry
    obtain ⟨hlength, before, after, hsplit, hbefore⟩ :=
      List.firstWith_of_find? (p := fun entry => 1 < entry.2.length) (by simp) hfind
    have hmem : (name, refs) ∈ a.vendors.toList := by simp [hsplit]
    have hget : SortedMap.getD a.vendors name [] = refs := by
      rw [SortedMap.getD, SortedMap.get?_eq_some_iff.2 hmem, Option.getD_some]
    refine .inr ⟨name, refs, sharesName_iff.2 (hget.symm ▸ hlength), fun other hother => ?_,
      hget ▸ refersTo_vendors a name, by rw [checkProducts, hfind]⟩
    -- Names come in ascending order, and none that comes before is shared.
    obtain ⟨refs', hmem', hlength'⟩ := mem_vendors_of_sharesName hother
    have hascending := a.vendors.ascending
    rw [hsplit] at hmem' hascending
    rcases List.mem_append.1 hmem' with hmem' | hmem'
    · exact absurd hlength' (hbefore _ hmem')
    · rcases List.mem_cons.1 hmem' with heq | hmem'
      · exact .inl (congrArg Prod.fst heq)
      · have htail := (List.pairwise_append.1 hascending).2.1
        exact .inr ((List.pairwise_cons.1 htail).1 _ hmem')

/-! ### Plugins -/

/-- The kinds of modules that plugins can use. -/
theorem moduleFitsPlugin_iff {m : Module} :
    moduleFitsPlugin m.kind = true ↔ (Node.module m).FitsPlugin := by
  cases hkind : m.kind <;> simp [moduleFitsPlugin, Node.FitsPlugin, hkind]

/-- The kinds of products that plugins can use. -/
theorem productFitsPlugin_iff {q : Product} :
    productFitsPlugin q.kind = true ↔ (Node.product q).FitsPlugin := by
  simp [productFitsPlugin, Node.FitsPlugin, or_assoc]

/-- An edge of a plugin is an error exactly if it points at something that the plugin cannot use. -/
theorem pluginError?_eq_some {l : Lookup} {plugin : Module} {e : Edge} {err : PackageError} :
    pluginError? l plugin e = some err ↔
      ∃ x, l.target? e = some x ∧ ¬ x.FitsPlugin ∧ misfitError plugin x = err := by
  unfold pluginError?
  cases htarget : l.target? e with
  | none => simp
  | some x =>
    cases x with
    | module m =>
      have hfits := moduleFitsPlugin_iff (m := m)
      cases hkind : moduleFitsPlugin m.kind <;> rw [hkind] at hfits <;>
        simp [hkind, ← hfits, misfitError]
    | product q =>
      have hfits := productFitsPlugin_iff (q := q)
      cases hkind : productFitsPlugin q.kind <;> rw [hkind] at hfits <;>
        simp [hkind, ← hfits, misfitError]

section
variable {a : Assembled}

/-- An edge is an error for a plugin exactly if it is a misfit. -/
theorem pluginError?_ne_none {plugin : Module} {e : Edge} :
    pluginError? a.lookup plugin e ≠ none ↔ a.Misfits e := by
  rw [Option.ne_none_iff_exists']
  constructor
  · rintro ⟨err, herr⟩
    obtain ⟨x, htarget, hmisfit, -⟩ := pluginError?_eq_some.1 herr
    exact ⟨x, htarget, hmisfit⟩
  · rintro ⟨x, htarget, hmisfit⟩
    exact ⟨_, pluginError?_eq_some.2 ⟨x, htarget, hmisfit, rfl⟩⟩

/-- A plugin has an error exactly if it has a misfit among its edges. -/
theorem findSome?_pluginError?_ne_none {plugin : Module} :
    plugin.edges.findSome? (pluginError? a.lookup plugin) ≠ none ↔
      ∃ e ∈ plugin.edges, a.Misfits e := by
  simp only [Ne, List.findSome?_eq_none_iff, not_forall, exists_prop]
  simp only [← Ne.eq_def, pluginError?_ne_none]

/-- The plugins of all packages. -/
theorem mem_plugins {m : Module} :
    m ∈ a.plugins ↔ ∃ p ∈ a.packages, m ∈ p.modules ∧ m.kind = .plugin := by
  simp only [plugins, modules, List.mem_filter, List.mem_flatMap, beq_iff_eq]
  constructor
  · rintro ⟨⟨p, hp, hm⟩, hkind⟩
    exact ⟨p, hp, hm, hkind⟩
  · rintro ⟨p, hp, hm, hkind⟩
    exact ⟨⟨p, hp, hm⟩, hkind⟩

end

/-- The check of plugins passes if they have no misfits, or it reports the first misfit of the first
plugin that has one. -/
theorem checkPlugins_cases (a : Assembled) :
    (a.checkPlugins = .ok () ∧ a.PluginsFit) ∨
      ∃ plugin e x, a.plugins.FirstWith (fun m => ∃ e ∈ m.edges, a.Misfits e) plugin ∧
        plugin.edges.FirstWith a.Misfits e ∧ a.lookup.target? e = some x ∧
        a.checkPlugins = .error (.package (misfitError plugin x)) := by
  cases hfind : a.plugins.findSome? fun m => m.edges.findSome? (pluginError? a.lookup m) with
  | none =>
    refine .inl ⟨?_, fun p hp m hm hkind e he hmisfit => ?_⟩
    · unfold plugins lookup modules at hfind
      rw [checkPlugins, hfind]
    · have hnone := List.findSome?_eq_none_iff.1 hfind m (mem_plugins.2 ⟨p, hp, hm, hkind⟩)
      exact findSome?_pluginError?_ne_none.2 ⟨e, he, hmisfit⟩ hnone
  | some err =>
    -- One scan finds the plugin, the scan inside it the edge.
    obtain ⟨plugin, hplugin, hfirst⟩ :=
      List.exists_firstWith_of_findSome? (fun _ => findSome?_pluginError?_ne_none) hfind
    obtain ⟨e, he, herr⟩ :=
      List.exists_firstWith_of_findSome? (fun _ => pluginError?_ne_none) hfirst
    obtain ⟨x, htarget, -, rfl⟩ := pluginError?_eq_some.1 herr
    refine .inr ⟨plugin, e, x, hplugin, he, htarget, ?_⟩
    unfold plugins lookup modules at hfind
    rw [checkPlugins, hfind]

/-! ### All checks -/

/-- A walk into a cycle meets a module that uses itself. -/
theorem not_usesAcyclic {a : Assembled} {w : Cycle Module} (hw : a.lookup.IsWalk w) :
    ¬ a.UsesAcyclic := by
  intro hacyclic
  have hfollows := hw.follows
  unfold Cycle.closedWalk at hfollows
  cases hcycle : w.cycle with
  | nil => exact hw.closed hcycle
  | cons m rest =>
    -- The walk ends with the cycle, from `m` through the rest and back to `m`.
    rw [hcycle, List.append_assoc] at hfollows
    exact hacyclic m (List.transGen_of_isChain (hfollows.right_of_append))

/-- The fault that is reported breaks a condition. -/
theorem FirstFault.not_wellFormed {a : Assembled} {e : PackageError} (h : a.FirstFault e) :
    ¬ a.WellFormed := by
  intro hwell
  cases h with
  | emptyRoot p hp => exact hwell.roots p hp.mem hp.1
  | moduleCycle _ w hw => exact not_usesAcyclic hw hwell.modules
  | duplicateProduct _ _ name _ hshared => exact hwell.products name hshared
  | pluginDependency _ _ _ plugin hplugin e he =>
    obtain ⟨p, hp, hm, hkind⟩ := mem_plugins.1 hplugin.mem
    exact hwell.plugins p hp plugin hm hkind e he.mem he.1

/-- The checks pass and the packages are well-formed, or they report what is wrong first. -/
theorem check_cases (a : Assembled) :
    (a.check = .ok () ∧ a.WellFormed) ∨ ∃ e, a.FirstFault e ∧ a.check = .error (.package e) := by
  unfold check
  -- A check is made only after those before it have passed, so their conditions are at hand.
  rcases a.checkRoots_cases with ⟨hok, hroots⟩ | ⟨p, hp, herror⟩
  case inr => exact .inr ⟨_, .emptyRoot p hp, by rw [herror]; rfl⟩
  rw [hok]
  rcases a.checkModules_cases with ⟨hok, hnone⟩ | ⟨w, hw, herror⟩
  case inr => exact .inr ⟨_, .moduleCycle hroots w hw, by rw [herror]; rfl⟩
  rw [hok]
  have hmodules := a.usesAcyclic_iff.2 hnone
  rcases a.checkProducts_cases with ⟨hok, hproducts⟩ | ⟨name, refs, hshared, hleast, hrefs, herror⟩
  case inr =>
    exact .inr ⟨_, .duplicateProduct hroots hmodules name refs hshared hleast hrefs,
      by rw [herror]; rfl⟩
  rw [hok]
  rcases a.checkPlugins_cases with ⟨hok, hplugins⟩ | ⟨plugin, e, x, hplugin, he, hx, herror⟩
  case inr =>
    exact .inr ⟨_, .pluginDependency hroots hmodules hproducts plugin hplugin e he x hx,
      by rw [herror]; rfl⟩
  exact .inl ⟨hok, hroots, hmodules, hproducts, hplugins⟩

/-- The checks accept exactly the packages whose roots are not empty, whose modules do not use each
other in a cycle, whose names of products are their own and whose plugins depend only on what they
can use.  Otherwise they report the first of these conditions, in this order, that is broken. -/
theorem check_ok_iff_wellFormed (a : Assembled) :
    (a.check = .ok () ↔ a.WellFormed) ∧
      ∀ e, a.check = .error e → ∃ e', e = .package e' ∧ a.FirstFault e' := by
  rcases a.check_cases with ⟨hok, hwell⟩ | ⟨fault, hfault, herror⟩
  · refine ⟨iff_of_true hok hwell, fun e he => ?_⟩
    rw [hok] at he
    exact nomatch he
  · rw [herror]
    refine ⟨iff_of_false (fun hok => nomatch hok) hfault.not_wellFormed, fun e he => ?_⟩
    exact ⟨fault, (Except.error.inj he).symm, hfault⟩

/-- A root with one module and a product of the module that is called `Kit`. -/
def kitPackage (name : String) (m : Module) (kind : ProductKind) : Package where
  identity := ⟨name⟩
  manifest := Manifest.bare (.root ⟨name⟩) name
  isRoot := true
  modules := [m]
  products := [⟨⟨⟨name⟩, "Kit"⟩, kind, [m.id], .empty, [], false⟩]
  dependencies := []
  enabledTraits := .empty
  filter := .everything

/-- A plugin that uses `Kit` of another package, while its own package has such a product, too. -/
def namesakes (kind : ProductKind) (aliased : List ProductId) : Assembled where
  packages :=
    [kitPackage "app" ⟨⟨⟨"app"⟩, "Gen"⟩, .plugin, ⟨"app"⟩, [⟨.product ⟨⟨"kit"⟩, "Kit"⟩, []⟩], [],
        default, none, []⟩ .plugin,
      kitPackage "kit" ⟨⟨⟨"kit"⟩, "Kit"⟩, .library, ⟨"kit"⟩, [], [], default, none, []⟩ kind]
  aliased := KeyedSet.ofList aliased

/-- The name is reported, unless the product of the other package is used under other module names;
then a plugin can use it if it is a library, but not if it is a macro. -/
theorem check_ok_iff_wellFormed_namesakes :
    (namesakes .library []).FirstFault
        (.duplicateProduct "Kit" [⟨⟨"app"⟩, .root ⟨"app"⟩⟩, ⟨⟨"kit"⟩, .root ⟨"kit"⟩⟩]) ∧
      (namesakes .library [⟨⟨"kit"⟩, "Kit"⟩]).WellFormed ∧
      (namesakes .macroProduct [⟨⟨"kit"⟩, "Kit"⟩]).FirstFault
        (.pluginDependency "Gen" "Kit" "macro" (some "kit")) := by
  refine ⟨?_, (check_ok_iff_wellFormed _).1.1 (by decide +kernel), ?_⟩
  · obtain ⟨e, he, hfault⟩ := (check_ok_iff_wellFormed (namesakes .library [])).2 (.package
      (.duplicateProduct "Kit" [⟨⟨"app"⟩, .root ⟨"app"⟩⟩, ⟨⟨"kit"⟩, .root ⟨"kit"⟩⟩]))
      (by decide +kernel)
    exact GraphError.package.inj he ▸ hfault
  · obtain ⟨e, he, hfault⟩ := (check_ok_iff_wellFormed
      (namesakes .macroProduct [⟨⟨"kit"⟩, "Kit"⟩])).2
      (.package (.pluginDependency "Gen" "Kit" "macro" (some "kit"))) (by decide +kernel)
    exact GraphError.package.inj he ▸ hfault

end Assembly.Assembled

end ModuleGraph
