import ModuleGraph.Proofs.Assembly.Links
import ModuleGraph.Proofs.Discovery.Closure
import ModuleGraph.Proofs.Load
import ModuleGraph.Proofs.Requirements

/-!
# Which active references a graph carries

When all declared packages are at hand, a module that is needed carries an edge, or a prebuilt
library in its place, for every reference that the traits of its package enable, with one exception.
A reference that does not name its package is dropped without a word if the only packages that have
the product are declared but left out, which happens since what is required is decided by package
names, and what is found by product names.

## Key results

- `Source.load_carries_iff`: a needed module carries all active references but the dropped ones
-/

namespace ModuleGraph

namespace Source

/-- What a reference in a module of a package means. -/
inductive Means (s : Source) (p : Package) (d : ModuleDependency) : EdgeTarget → Prop
  /-- A module of the package. -/
  | module (name : String) (htarget : d.target = .module name ∨ d.target = .byName name)
      (hmodule : (p.manifest.module? name).isSome = true) : Means s p d (.module ⟨p.identity, name⟩)
  /-- A product of the first declared dependency that goes by the name of the package. -/
  | qualified (name package : String) (aliases : SortedMap String String) (dep : Dependency)
      (htarget : d.target = .product name (some package) aliases)
      (hdep : p.manifest.dependencies.find?
        (fun dep => dep.isMeantBy (s.mirrors.identify dep.origin) package) = some dep)
      (hloaded : s.mirrors.identify dep.origin ∈ p.dependencies)
      (hvends : s.catalog.Vends (s.mirrors.identify dep.origin) name) :
      Means s p d (.product ⟨s.mirrors.identify dep.origin, name⟩)
  /-- A product of a package that this one depends on. -/
  | unqualified (id : Identity) (hunqualified : p.manifest.isUnqualified d = true)
      (hloaded : id ∈ p.dependencies) (hvends : s.catalog.Vends id d.name) :
      Means s p d (.product ⟨id, d.name⟩)

/-- A module has an edge for a reference, with the declared conditions, or it records the prebuilt
library that replaces the product. -/
def Carries (s : Source) (p : Package) (mod : Module) (d : ModuleDependency) : Prop :=
  ∃ target, s.Means p d target ∧
    (⟨target, d.conditions⟩ ∈ mod.edges ∨
      (mod.kind = .macroModule ∨ mod.kind = .test) ∧
        ∃ product library, target = .product product ∧
          s.prebuilts.find? product.package product.name = some library ∧
          ∃ recorded ∈ mod.prebuilts, library.same recorded = true)

/-- A reference is dropped.  It does not name its package, and neither a package in the graph that
this one depends on nor the package itself has the product; but a declared package has it that is
left out, since nothing is required of it. -/
structure Drops (s : Source) (p : Package) (d : ModuleDependency) : Prop where
  unqualified : p.manifest.isUnqualified d = true
  notVended : ∀ id ∈ p.dependencies, ¬ s.catalog.Vends id d.name
  notOwn : p.manifest.product? d.name = none
  leftOut : ∃ i dep m, p.manifest.dependencies[i]? = some dep ∧
    s.mirrors.identify dep.origin ∉ p.dependencies ∧
    p.manifest.LeavesOut s.mirrors.identify p.filter p.enabledTraits i ∧
    s.catalog.manifest? (s.mirrors.identify dep.origin) = some m ∧
    (m.product? d.name).isSome = true

/-- A module stands for a declared one; if it is needed for the filter of the package, it carries
exactly the active references that are not dropped. -/
structure CarriesActive (s : Source) (p : Package) (decl : ModuleDecl) (mod : Module) : Prop where
  id : mod.id = ⟨p.identity, decl.name⟩
  kind : mod.kind = decl.kind
  carries : decl ∈ p.manifest.requiredModules p.filter p.enabledTraits →
    ∀ d ∈ decl.dependencies, d.enabledBy p.enabledTraits = true →
      (s.Carries p mod d ↔ ¬ s.Drops p d)

/-! ### What references mean -/

/-- A reference that is dropped means nothing. -/
theorem Drops.not_means {s : Source} {p : Package} {d : ModuleDependency} {target : EdgeTarget}
    (h : s.Drops p d) : ¬ s.Means p d target := by
  intro hmeans
  have hun := h.unqualified
  unfold Manifest.isUnqualified at hun
  cases hmeans with
  | module name htarget hmodule =>
    rcases htarget with htarget | htarget <;> rw [htarget] at hun
    · exact nomatch hun
    · rw [Option.isNone_iff_eq_none.1 hun] at hmodule
      exact nomatch hmodule
  | qualified name package aliases dep htarget =>
    rw [htarget] at hun
    exact nomatch hun
  | unqualified id _ hloaded hvends => exact h.notVended id hloaded hvends

/-- What a reference is resolved to is what it means. -/
theorem means_of_target {s : Source} {traits : EnabledTraits} {disc : Discovery} {p : Package}
    {decl : ModuleDecl} {d : ModuleDependency} {target : EdgeTarget}
    (hdeps : p.dependencies = disc.edgesOf p.identity)
    (h : (s.assembly traits disc).target? p.identity p.manifest decl d = .ok (some target)) :
    s.Means p d target := by
  rcases Assembly.target?_ok h with ⟨name, htarget, hmodule, heq⟩ |
    ⟨name, package, aliases, found, htarget, hfound, heq⟩ | ⟨hun, found, hfound, heq⟩
  · rw [Option.some.inj heq]
    exact .module name htarget hmodule
  · obtain ⟨product, rfl, rfl⟩ := Option.map_eq_some_iff.1 heq.symm
    obtain ⟨dep, hdep, hloaded, rfl, hvends⟩ := Assembly.resolveQualified_some hfound
    exact .qualified name package aliases dep htarget hdep (hdeps ▸ hloaded) hvends
  · obtain ⟨product, rfl, rfl⟩ := Option.map_eq_some_iff.1 heq.symm
    obtain ⟨id, hloaded, rfl, hvends⟩ := Assembly.resolveUnqualified_some hfound
    exact .unqualified id hun (hdeps ▸ hloaded) hvends

/-- A module carries a reference that its links have recorded. -/
theorem carries_of_records {s : Source} {traits : EnabledTraits} {disc : Discovery} {p : Package}
    {mod : Module} {l : Assembly.Links} (hedges : mod.edges = l.edges)
    (hprebuilts : mod.prebuilts = l.prebuilts) {d : ModuleDependency} {target : EdgeTarget}
    (hmeans : s.Means p d target)
    (hrecords : (s.assembly traits disc).Records mod.kind l d target) : s.Carries p mod d := by
  refine ⟨target, hmeans, ?_⟩
  unfold Assembly.Records at hrecords
  split at hrecords
  · next library hsubstitute =>
    obtain ⟨hkind, product, rfl, hfind⟩ := Assembly.substitute?_eq_some hsubstitute
    exact .inr ⟨hkind, product, library, rfl, hfind, hprebuilts ▸ hrecords⟩
  · exact .inl (hedges ▸ hrecords)

/-! ### Packages of a graph -/

section
variable {s : Source} {g : Graph} {w : TraitWalk} {disc : Discovery} {packages : List Package}
  {p : Package}

/-- A declared package that is at hand has been loaded unless it is left out. -/
theorem MadeFrom.loaded_or_leavesOut (h : s.MadeFrom g w disc packages)
    (hp : p ∈ g.packages.toList) {i : Nat} {dep : Dependency}
    (hdep : p.manifest.dependencies[i]? = some dep)
    (hhas : s.catalog.has (s.mirrors.identify dep.origin) = true) :
    s.mirrors.identify dep.origin ∈ p.dependencies ∨
      p.manifest.LeavesOut s.mirrors.identify p.filter p.enabledTraits i := by
  obtain ⟨hid, hm, hpackage⟩ := h.isPackage hp
  refine or_iff_not_imp_right.2 fun hnot => ?_
  -- What is required for the final filter has been noted, and all manifests are there.
  obtain ⟨f, hreq⟩ := Manifest.exists_required_of_not_leavesOut hdep hnot
  rw [hpackage.filter, hpackage.enabledTraits] at hreq
  rw [hpackage.dependencies]
  exact ((Catalog.discover_closed h.discovery p.identity hid p.manifest hm _ hreq).loaded hhas).1

/-- A reference that names its package is never passed over in a module that is needed. -/
theorem MadeFrom.qualified_loaded (h : s.MadeFrom g w disc packages) (hp : p ∈ g.packages.toList)
    {d : ModuleDependency} (hd : d ∈ p.manifest.requiredReferences p.filter p.enabledTraits)
    (hen : d.enabledBy p.enabledTraits = true) {name package : String}
    {aliases : SortedMap String String} (htarget : d.target = .product name (some package) aliases)
    {dep : Dependency} (hdep : p.manifest.dependencies.find?
      (fun dep => dep.isMeantBy (s.mirrors.identify dep.origin) package) = some dep)
    (hhas : s.catalog.has (s.mirrors.identify dep.origin) = true) :
    s.mirrors.identify dep.origin ∈ p.dependencies := by
  obtain ⟨i, hidx, hget⟩ := Manifest.dependencyIndex?_of_qualified htarget hdep
  exact (h.loaded_or_leavesOut hp hget hhas).resolve_right
    (Manifest.not_leavesOut_of_means hd hen hidx)

/-- A reference in a needed module that is resolved to nothing is dropped. -/
theorem MadeFrom.drops (h : s.MadeFrom g w disc packages) (hp : p ∈ g.packages.toList)
    (hhas : ∀ dep ∈ p.manifest.dependencies, s.catalog.has (s.mirrors.identify dep.origin) = true)
    {decl : ModuleDecl} {d : ModuleDependency}
    (hd : d ∈ p.manifest.requiredReferences p.filter p.enabledTraits)
    (hen : d.enabledBy p.enabledTraits = true)
    (hnone : (s.assembly w.enabled disc).target? p.identity p.manifest decl d = .ok none) :
    s.Drops p d := by
  obtain ⟨-, -, hpackage⟩ := h.isPackage hp
  have hdeps : p.dependencies = disc.edgesOf p.identity := hpackage.dependencies
  rcases Assembly.target?_ok hnone with ⟨name, -, -, heq⟩ |
    ⟨name, package, aliases, found, htarget, hfound, heq⟩ | ⟨hun, found, hfound, heq⟩
  · -- A reference to a module always has a target.
    exact nomatch heq
  · rw [Option.map_eq_none_iff.1 heq.symm] at hfound
    obtain ⟨dep, hdep, hnot, -⟩ := Assembly.resolveQualified_none hfound
    -- The reference itself makes its package required, so the package has been loaded.
    refine absurd ?_ hnot
    exact hdeps ▸ h.qualified_loaded hp hd hen htarget hdep
      (hhas dep (List.mem_of_find?_eq_some hdep))
  · rw [Option.map_eq_none_iff.1 heq.symm] at hfound
    obtain ⟨hvends, hown, dep, hdep, hnot, hmay⟩ := Assembly.resolveUnqualified_none hfound
    obtain ⟨i, hget⟩ := List.mem_iff_getElem?.1 hdep
    obtain ⟨m, hm⟩ := Catalog.has_iff.1 (hhas dep hdep)
    refine ⟨hun, hdeps ▸ hvends, hown, i, dep, m, hget, hdeps ▸ hnot, ?_, hm,
      Assembly.mayVend_of_manifest hm hmay⟩
    exact (h.loaded_or_leavesOut hp hget (hhas dep hdep)).resolve_left (hdeps ▸ hnot)

end

/-- In a graph for which all declared packages are at hand, the modules of a package stand for the
declared ones, and every module that is needed carries exactly the active references that are not
dropped. -/
theorem load_carries_iff {s : Source} {g : Graph} (h : s.load.result = .ok g)
    (hhas : ∀ p ∈ g.packages.toList, ∀ dep ∈ p.manifest.dependencies,
      s.catalog.has (s.mirrors.identify dep.origin) = true) :
    ∀ p ∈ g.packages.toList, List.Forall₂ (s.CarriesActive p)
      (p.manifest.modules.filter (Assembly.hasModule p.isRoot)) p.modules := by
  obtain ⟨w, disc, packages, hmade⟩ := load_ok h
  intro p hp
  obtain ⟨-, -, hpackage⟩ := hmade.isPackage hp
  have hmodules := hpackage.modules
  rw [show (s.assembly w.enabled disc).catalog.isRoot p.identity = p.isRoot from
    hpackage.isRoot.symm] at hmodules
  refine hmodules.imp fun decl mod hmod => ⟨hmod.name, hmod.kind, fun hneeded d hd hen => ?_⟩
  refine ⟨fun ⟨target, hmeans, _⟩ hdrops => hdrops.not_means hmeans, fun hkept => ?_⟩
  -- The links of the module tell what has become of the reference.
  obtain ⟨l, hl, hedges, hprebuilts⟩ := hmod.links
  obtain ⟨t, ht, hrecords⟩ := Assembly.links_ok hl d hd (hpackage.enabledTraits ▸ hen)
  have href : d ∈ p.manifest.requiredReferences p.filter p.enabledTraits :=
    List.mem_flatMap.2 ⟨decl, hneeded, hd⟩
  cases t with
  | none => exact absurd (hmade.drops hp (hhas p hp) href hen ht) hkept
  | some target =>
    have hmeans := means_of_target hpackage.dependencies ht
    exact carries_of_records hedges hprebuilts hmeans (hmod.kind ▸ hrecords target rfl)

end Source

/-- A package that uses one product of another without naming the package, and a second one for a
trait, by the name of the package. -/
def disabledReference : Source :=
  Source.ofManifests
    [{ Manifest.bare (.root ⟨"app"⟩) "App" with
        modules := [⟨"App", .library, none,
          [⟨.product "Foo" none KeyedSet.empty, none⟩,
            ⟨.product "Bar" (some "kit") KeyedSet.empty,
              some ⟨none, none, some (KeyedSet.ofList ["Tls"])⟩⟩]⟩]
        dependencies := [.onRegistry "kit" none]
        traits := [⟨"Tls", KeyedSet.empty, none⟩] },
      { Manifest.bare (.registry "kit") "Kit" with
        modules := [⟨"Foo", .library, none, []⟩, ⟨"Bar", .library, none, []⟩]
        products := [⟨"Foo", .library, ["Foo"]⟩, ⟨"Bar", .library, ["Bar"]⟩] }]

/-- All packages that are declared beside a disabled reference are at hand, and what modules carry
is known. -/
theorem load_carries_iff_disabledReference :
    ∃ g, disabledReference.load.result = .ok g ∧
      (∀ p ∈ g.packages.toList, ∀ dep ∈ p.manifest.dependencies,
        disabledReference.catalog.has (disabledReference.mirrors.identify dep.origin) = true) ∧
      ∀ p ∈ g.packages.toList, List.Forall₂ (disabledReference.CarriesActive p)
        (p.manifest.modules.filter (Assembly.hasModule p.isRoot)) p.modules := by
  have hall : (disabledReference.load.result.toOption.any fun g =>
      g.packages.toList.all fun p => p.manifest.dependencies.all fun dep =>
        disabledReference.catalog.has (disabledReference.mirrors.identify dep.origin)) = true := by
    decide +kernel
  obtain ⟨g, h, hall⟩ := Except.exists_ok_of_any hall
  have hhas : ∀ p ∈ g.packages.toList, ∀ dep ∈ p.manifest.dependencies,
      disabledReference.catalog.has (disabledReference.mirrors.identify dep.origin) = true :=
    fun p hp => List.all_eq_true.1 (List.all_eq_true.1 hall p hp)
  exact ⟨g, h, hhas, Source.load_carries_iff h hhas⟩

/-- The enabled reference is dropped with the package, which the disabled one leaves out. -/
example : (disabledReference.load.result.toOption.map fun g =>
    g.packages.toList.map fun p => (p.identity.name, p.modules.map (·.edges))) =
      some [("app", [[]])] := by
  decide +kernel

end ModuleGraph
