import ModuleGraph.Proofs.EdgeTargets

/-!
# Which references are passed over

A graph can be loaded although some packages are missing or have been left out, and then a module
may ask for a product that no package of the graph has.  Such a reference is passed over only with
an excuse: a declared package that is not loaded could have the product.  A package with a manifest
could have what it declares.  One without a manifest could have anything, provided that it was
looked for; this is excused, too, in modules that nothing requires.  All other references are
errors.

## Key results

- `PassesOver.not_means`: what is passed over means nothing in the graph
- `Source.BuiltFrom.passesOver`: what is resolved to nothing has an excuse
- `Source.load_passes_over`: which references a graph lacks, and that no others are accepted
-/

namespace ModuleGraph

section
variable {m : Manifest} {d : ModuleDependency} {name : String} {package : Option String}

/-- A dependency that asks for a product goes by its name. -/
theorem Manifest.AsksFor.name_eq (h : m.AsksFor d name package) : d.name = name := by
  unfold ModuleDependency.name
  cases h with
  | product _ _ htarget => rw [htarget]
  | byName htarget _ => rw [htarget]

/-- A dependency that asks for a product is unqualified if it names no package. -/
theorem Manifest.AsksFor.isUnqualified_eq (h : m.AsksFor d name package) :
    m.isUnqualified d = package.isNone := by
  unfold Manifest.isUnqualified
  cases h with
  | product _ _ htarget => rw [htarget]
  | byName htarget hmodule => simp [htarget, hmodule]

/-- A dependency that asks for a product means no module of its package. -/
theorem Manifest.AsksFor.not_module (h : m.AsksFor d name package) {other : String}
    (htarget : d.target = .module other ∨ d.target = .byName other) : m.module? other = none := by
  cases h with
  | product _ _ hproduct => rcases htarget with htarget | htarget <;> simp [htarget] at hproduct
  | byName hbyName hnone =>
    rcases htarget with htarget | htarget
    · simp [htarget] at hbyName
    · rw [htarget] at hbyName
      cases hbyName
      exact hnone

end

namespace Source

/-- On the way of discovery there was a visit of a package for a filter. -/
def VisitsFor (s : Source) (id : Identity) (f : ProductFilter) : Prop :=
  ∃ traits start d, s.enabledTraits = .ok traits ∧
    s.catalog.entered s.mirrors s.rootDependencies s.options.filter = .ok start ∧
    Discovery.Proceeds s.catalog s.mirrors traits start d ∧
    d.queue.head? = some id ∧ d.filterOf id = f

/-- A package was required by another one at some visit of that. -/
def Requires (s : Source) (p : Package) (id : Identity) : Prop :=
  ∃ f, s.VisitsFor p.identity f ∧ ∃ dep g,
    (dep, g) ∈ p.manifest.requiredDependencies s.mirrors.identify f p.enabledTraits ∧
      s.mirrors.identify dep.origin = id

/-- A product that a module asks for may come from a declared package: that is not loaded, and
either it has a manifest that declares the product, or it has none, and it was required or the
module is not required for the final filter of its package. -/
structure MayComeFrom (s : Source) (p : Package) (decl : ModuleDecl) (name : String)
    (dep : Dependency) : Prop where
  notLoaded : s.mirrors.identify dep.origin ∉ p.dependencies
  vends : (∃ m, s.catalog.manifest? (s.mirrors.identify dep.origin) = some m ∧
      (m.product? name).isSome = true) ∨
    s.catalog.manifest? (s.mirrors.identify dep.origin) = none ∧
      (s.Requires p (s.mirrors.identify dep.origin) ∨
        ∀ needed ∈ p.manifest.requiredModules p.filter p.enabledTraits, needed.name ≠ decl.name)

/-- There is an excuse for a product that is not found. -/
inductive PassesOver (s : Source) (p : Package) (decl : ModuleDecl) (name : String) :
    Option String → Prop
  /-- It may come from the package that the reference names. -/
  | qualified (package : String) (dep : Dependency) (hdep : p.manifest.dependencies.find?
        (fun dep => dep.isMeantBy (s.mirrors.identify dep.origin) package) = some dep)
      (hmay : s.MayComeFrom p decl name dep) : PassesOver s p decl name (some package)
  /-- The reference names no package, and the product may come from any that is declared; no package
  that is loaded for this one has it, and neither has this one. -/
  | unqualified (dep : Dependency) (hdep : dep ∈ p.manifest.dependencies)
      (hmay : s.MayComeFrom p decl name dep)
      (hvends : ∀ id ∈ p.dependencies, ¬ s.catalog.Vends id name)
      (hown : p.manifest.product? name = none) : PassesOver s p decl name none

/-- A module stands for a declared one, and carries exactly those active references to products for
which there is no excuse. -/
structure Accounts (s : Source) (p : Package) (decl : ModuleDecl) (mod : Module) : Prop where
  id : mod.id = ⟨p.identity, decl.name⟩
  kind : mod.kind = decl.kind
  references : ∀ d ∈ decl.dependencies, d.enabledBy p.enabledTraits = true →
    ∀ name package, p.manifest.AsksFor d name package →
      (s.Carries p mod d ↔ ¬ s.PassesOver p decl name package)

/-- All packages that a manifest declares are at hand, and none of them declares the product. -/
def NoneDeclares (s : Source) (m : Manifest) (name : String) : Prop :=
  ∀ dep ∈ m.dependencies, ∃ q, s.catalog.manifest? (s.mirrors.identify dep.origin) = some q ∧
    q.product? name = none

/-- A package that is met has a module with an active reference to a product that none of the
packages declares on which it depends. -/
structure Lacks (s : Source) (traits : EnabledTraits) (disc : Discovery) (id : Identity)
    (m : Manifest) (decl : ModuleDecl) (name : String) : Prop where
  enabledTraits : s.enabledTraits = .ok traits
  discovery : s.catalog.discover s.mirrors traits s.rootDependencies s.options.filter = .ok disc
  met : id ∈ disc.order
  manifest : s.catalog.manifest? id = some m
  module : decl ∈ m.modules.filter (Assembly.hasModule (s.catalog.isRoot id))
  asks : ∃ d ∈ decl.dependencies, d.enabledBy (traits.of id) = true ∧
    ∃ package, m.AsksFor d name package
  noneDeclares : s.NoneDeclares m name

/-! ### Excuses -/

section
variable {s : Source} {p : Package} {decl : ModuleDecl} {d : ModuleDependency} {name : String}
  {package : Option String}

/-- What a reference to a product means is a product that a loaded package vends; if the reference
names a package, it is vended by the first declared dependency of the name. -/
theorem Means.exists_vends {target : EdgeTarget} (h : s.Means p d target)
    (hasks : p.manifest.AsksFor d name package) :
    ∃ id ∈ p.dependencies, s.catalog.Vends id name ∧
      ∀ qualifier, package = some qualifier → ∃ dep, p.manifest.dependencies.find?
        (fun dep => dep.isMeantBy (s.mirrors.identify dep.origin) qualifier) = some dep ∧
          s.mirrors.identify dep.origin = id := by
  have hname := hasks.name_eq
  cases h with
  -- The reference asks for a product, so it means no module.
  | module other htarget hmodule =>
    rw [hasks.not_module htarget] at hmodule
    exact nomatch hmodule
  -- A package is named: the dependency that it means is the first of the name.
  | qualified name' qualifier' aliases dep htarget hdep hloaded hvends =>
    cases hasks with
    | byName hbyName _ => simp [htarget] at hbyName
    | product _ _ hproduct =>
      rw [htarget] at hproduct
      cases hproduct
      refine ⟨_, hloaded, hvends, fun qualifier hsome => ?_⟩
      cases hsome
      exact ⟨dep, hdep, rfl⟩
  -- No package is named, so there is nothing to show for one.
  | unqualified id hun hloaded hvends =>
    rw [hasks.isUnqualified_eq] at hun
    refine ⟨id, hloaded, hname ▸ hvends, fun qualifier hsome => ?_⟩
    rw [hsome] at hun
    exact nomatch hun

/-- A reference to a product that is passed over means nothing in the graph. -/
theorem PassesOver.not_means (h : s.PassesOver p decl name package)
    (hasks : p.manifest.AsksFor d name package) {target : EdgeTarget} :
    ¬ s.Means p d target := by
  intro hmeans
  obtain ⟨id, hloaded, hvends, hqualified⟩ := hmeans.exists_vends hasks
  cases h with
  | qualified qualifier dep hdep hmay =>
    obtain ⟨dep', hdep', rfl⟩ := hqualified qualifier rfl
    have hsame : dep = dep' := Option.some.inj (hdep.symm.trans hdep')
    exact hmay.notLoaded (hsame ▸ hloaded)
  | unqualified dep hdep hmay hnone hown => exact hnone id hloaded hvends

/-- If all declared packages are at hand and none declares a product, it may come from none. -/
theorem NoneDeclares.not_mayComeFrom (h : s.NoneDeclares p.manifest name) {dep : Dependency}
    (hdep : dep ∈ p.manifest.dependencies) : ¬ s.MayComeFrom p decl name dep := by
  intro hmay
  obtain ⟨q, hq, hnone⟩ := h dep hdep
  rcases hmay.vends with ⟨m, hm, hsome⟩ | ⟨hm, -⟩
  · have hsame : m = q := Option.some.inj (hm.symm.trans hq)
    rw [hsame, hnone] at hsome
    exact nomatch hsome
  · rw [hq] at hm
    exact nomatch hm

/-- If all declared packages are at hand and none declares a product, there is no excuse for it. -/
theorem NoneDeclares.not_passesOver (h : s.NoneDeclares p.manifest name) :
    ¬ s.PassesOver p decl name package := by
  intro hpasses
  cases hpasses with
  | qualified _ dep hdep hmay => exact h.not_mayComeFrom (List.mem_of_find?_eq_some hdep) hmay
  | unqualified dep hdep hmay => exact h.not_mayComeFrom hdep hmay

end

/-! ### References of a loaded graph -/

namespace BuiltFrom

variable {s : Source} {g : Graph} {parts : Parts} (h : s.BuiltFrom g parts) {p : Package}
  (hp : p ∈ g.packages.toList)
include h hp

/-- A package that is noted as missing was required at some visit. -/
theorem requires {id : Identity} (hid : id ∈ parts.discovery.unloadedOf p.identity) :
    s.Requires p id := by
  obtain ⟨htraits, hdiscover, -⟩ := assembled_ok h.assembled
  obtain ⟨start, f, hstart, ⟨before, after, hvisit⟩, ⟨dep, g⟩, hrequired, heq⟩ :=
    Catalog.exists_visit_of_noted hdiscover (.inr hid)
  have hvisits : s.VisitsFor p.identity f :=
    ⟨parts.traits, start, before, htraits, hstart, hvisit.reached, hvisit.next, hvisit.filter⟩
  have henabled : p.enabledTraits = parts.traits.of p.identity := (h.isPackage hp).enabledTraits
  rw [Catalog.requirements, (h.manifest hp).1, ← henabled] at hrequired
  exact ⟨f, hvisits, dep, g, hrequired, heq⟩

/-- A declared package that is not loaded and may vend a product is one from which that may come. -/
theorem mayComeFrom {decl : ModuleDecl} {name : String} {dep : Dependency}
    (hloaded : s.mirrors.identify dep.origin ∉ parts.discovery.edgesOf p.identity)
    (hmay : (s.assembly parts.traits parts.discovery).mayVend
      ⟨p.identity, p.manifest, decl, name⟩ (s.mirrors.identify dep.origin) = true) :
    s.MayComeFrom p decl name dep := by
  have hpackage := h.isPackage hp
  have hdeps : p.dependencies = parts.discovery.edgesOf p.identity := hpackage.dependencies
  refine ⟨hdeps ▸ hloaded, ?_⟩
  cases hm : s.catalog.manifest? (s.mirrors.identify dep.origin) with
  | some m => exact .inl ⟨m, rfl, Assembly.mayVend_of_manifest hm hmay⟩
  | none =>
    refine .inr ⟨rfl, ?_⟩
    -- Without a manifest, the package is required, or the module is not.
    rcases Assembly.mayVend_of_absent hm hmay with hunloaded | houtside
    · exact .inl (h.requires hp hunloaded)
    · refine .inr ?_
      rw [hpackage.filter, hpackage.enabledTraits]
      exact houtside

/-- A reference to a product that is resolved to nothing has an excuse. -/
theorem passesOver {decl : ModuleDecl} {d : ModuleDependency} {name : String}
    {package : Option String} (hasks : p.manifest.AsksFor d name package)
    (hnone : (s.assembly parts.traits parts.discovery).target? p.identity p.manifest decl d =
      .ok none) : s.PassesOver p decl name package := by
  rw [Assembly.target?_of_asksFor hasks] at hnone
  obtain ⟨found, hfound, heq⟩ := Except.map_eq_ok.1 hnone
  rw [Option.map_eq_none_iff.1 heq.symm] at hfound
  cases package with
  -- The package is named, and it is the one that may have the product.
  | some package =>
    obtain ⟨dep, hdep, hloaded, hmay⟩ := Assembly.resolveQualified_none hfound
    exact .qualified package dep hdep (h.mayComeFrom hp hloaded hmay)
  | none =>
    obtain ⟨hvends, hown, dep, hdep, hloaded, hmay⟩ := Assembly.resolveUnqualified_none hfound
    have hdeps : p.dependencies = parts.discovery.edgesOf p.identity :=
      (h.isPackage hp).dependencies
    exact .unqualified dep hdep (h.mayComeFrom hp hloaded hmay) (hdeps ▸ hvends) hown

/-- A module that stands for a declared one carries the references for which there is no excuse. -/
theorem accounts {decl : ModuleDecl} {mod : Module}
    (hmod : (s.assembly parts.traits parts.discovery).IsModule p.identity p.manifest decl mod) :
    s.Accounts p decl mod := by
  refine ⟨hmod.name, hmod.kind, fun d hd hen name package hasks => ?_⟩
  have hpackage := h.isPackage hp
  constructor
  · rintro ⟨target, hmeans, -⟩ hpasses
    exact hpasses.not_means hasks hmeans
  · intro hno
    obtain ⟨l, hl, hedges, hprebuilts⟩ := hmod.links
    obtain ⟨t, ht, hrecords⟩ := Assembly.links_ok hl d hd (hpackage.enabledTraits ▸ hen)
    -- It is resolved to nothing with an excuse only; otherwise what it means is recorded.
    cases t with
    | none => exact absurd (h.passesOver hp hasks ht) hno
    | some target =>
      have hmeans := means_of_target hpackage.dependencies ht
      exact carries_of_records hedges hprebuilts hmeans (hmod.kind ▸ hrecords target rfl)

/-- A reference to a product is not carried if all declared packages are at hand and none has it. -/
theorem not_carries {d : ModuleDependency} {name : String} {package : Option String}
    (hasks : p.manifest.AsksFor d name package) (hnone : s.NoneDeclares p.manifest name)
    {mod : Module} : ¬ s.Carries p mod d := by
  rintro ⟨target, hmeans, -⟩
  obtain ⟨id, hloaded, ⟨m, product, hm, hproduct, -⟩, -⟩ := hmeans.exists_vends hasks
  -- A package that is loaded for this one is among those that it declares.
  obtain ⟨dep, hdep, rfl⟩ := h.exists_declared hp hloaded
  obtain ⟨q, hq, habsent⟩ := hnone dep hdep
  have hsame : m = q := Option.some.inj (hm.symm.trans hq)
  rw [hsame, habsent] at hproduct
  exact nomatch hproduct

end BuiltFrom

/-- No graph is loaded if a module lacks a product that it asks for. -/
theorem BuiltFrom.not_lacks {s : Source} {g : Graph} {parts : Parts} (h : s.BuiltFrom g parts)
    {traits : EnabledTraits} {disc : Discovery} {id : Identity} {m : Manifest} {decl : ModuleDecl}
    {name : String} : ¬ s.Lacks traits disc id m decl name := by
  intro hlacks
  obtain ⟨htraits, hdiscover, -⟩ := assembled_ok h.assembled
  have hsameTraits : traits = parts.traits :=
    Except.ok.inj (hlacks.enabledTraits.symm.trans htraits)
  subst hsameTraits
  have hsameDisc : disc = parts.discovery :=
    Except.ok.inj (hlacks.discovery.symm.trans hdiscover)
  subst hsameDisc
  -- The package is part of the graph, and the module stands for the declared one.
  obtain ⟨w, hmade, -⟩ := h.exists_madeFrom
  obtain ⟨p, hp, rfl⟩ := hmade.exists_package hlacks.met (Catalog.has_iff.2 ⟨m, hlacks.manifest⟩)
  obtain ⟨hm, hroot⟩ := h.manifest hp
  have hsame : m = p.manifest := Option.some.inj (hlacks.manifest.symm.trans hm)
  subst hsame
  have hdecl := hlacks.module
  rw [← hroot] at hdecl
  obtain ⟨mod, -, hmod⟩ := (h.modules hp).exists_of_mem_left hdecl
  obtain ⟨d, hd, hen, package, hasks⟩ := hlacks.asks
  have hen : d.enabledBy p.enabledTraits = true := by
    rw [(h.isPackage hp).enabledTraits]
    exact hen
  -- The reference is carried unless there is an excuse, but neither is the case.
  have hiff := (h.accounts hp hmod).references d hd hen name package hasks
  have hcarries : s.Carries p mod d := hiff.2 hlacks.noneDeclares.not_passesOver
  exact h.not_carries hp hasks hlacks.noneDeclares hcarries

/-- In a loaded graph, the active references to products that a module does not carry are those for
which there is an excuse.  If a module asks for a product while all packages that its package
declares are at hand and none of them declares it, no graph is loaded. -/
theorem load_passes_over (s : Source) :
    (∀ g, s.load.result = .ok g → ∀ p ∈ g.packages.toList, List.Forall₂ (s.Accounts p)
        (p.manifest.modules.filter (Assembly.hasModule p.isRoot)) p.modules) ∧
      ∀ traits disc id m decl name, s.Lacks traits disc id m decl name →
        ∃ e, s.load.result = .error e := by
  constructor
  · intro g h p hp
    obtain ⟨parts, hbuilt⟩ := exists_builtFrom h
    exact (hbuilt.modules hp).imp fun decl mod hmod => hbuilt.accounts hp hmod
  · intro traits disc id m decl name hlacks
    cases hload : s.load.result with
    | error e => exact ⟨e, rfl⟩
    | ok g =>
      obtain ⟨parts, hbuilt⟩ := exists_builtFrom hload
      exact absurd hlacks hbuilt.not_lacks

end Source

/-- A package that asks for a product of a package that is missing, and for one of a package that it
does not load, since only a disabled reference names that. -/
def excusedReferences : Source :=
  Source.ofManifests
    [{ Manifest.bare (.root ⟨"app"⟩) "App" with
        modules := [⟨"App", .library, none,
          [⟨.product "Gone" (some "gone") KeyedSet.empty, none⟩, ⟨.byName "Foo", none⟩,
            ⟨.product "Bar" (some "kit") KeyedSet.empty,
              some ⟨none, none, some (KeyedSet.ofList ["Tls"])⟩⟩]⟩]
        dependencies := [.onRegistry "kit" none, .onRegistry "gone" none]
        traits := [⟨"Tls", KeyedSet.empty, none⟩] },
      { Manifest.bare (.registry "kit") "Kit" with
        modules := [⟨"Foo", .library, none, []⟩, ⟨"Bar", .library, none, []⟩]
        products := [⟨"Foo", .library, ["Foo"]⟩, ⟨"Bar", .library, ["Bar"]⟩] }]

/-- A package that asks for a product by a name that the only package it declares does not have. -/
def misspelledReference : Source :=
  Source.ofManifests
    [usingPackages (.root ⟨"app"⟩) "App" [("kit", "Kti")],
      usingPackages (.registry "kit") "Kit" []]

/-- Excused references leave no edges, and a misspelled one is an error. -/
theorem load_passes_over_excusedReferences :
    (∃ g, excusedReferences.load.result = .ok g ∧
      (∃ p ∈ g.packages.toList, p.modules.map Module.edges = [[]]) ∧
      ∀ p ∈ g.packages.toList, List.Forall₂ (excusedReferences.Accounts p)
        (p.manifest.modules.filter (Assembly.hasModule p.isRoot)) p.modules) ∧
      (∃ traits disc id m decl, misspelledReference.Lacks traits disc id m decl "Kti") ∧
      ∃ e, misspelledReference.load.result = .error e := by
  have hany : (excusedReferences.load.result.toOption.any fun g => decide (
      ∃ p ∈ g.packages.toList, p.modules.map Module.edges = [[]])) = true := by
    decide +kernel
  obtain ⟨g, h, hedges⟩ := Except.exists_ok_of_any hany
  -- In the other source the root is met, and the only dependency has no product of the name.
  have hmet : (misspelledReference.enabledTraits.toOption.any fun traits =>
      (misspelledReference.catalog.discover misspelledReference.mirrors traits
        misspelledReference.rootDependencies misspelledReference.options.filter).toOption.any
          fun disc => decide (⟨"app"⟩ ∈ disc.order)) = true := by
    decide +kernel
  obtain ⟨traits, htraits, hdiscover⟩ := Except.exists_ok_of_any hmet
  obtain ⟨disc, hdiscover, hid⟩ := Except.exists_ok_of_any hdiscover
  have hlacks : misspelledReference.Lacks traits disc ⟨"app"⟩
      (usingPackages (.root ⟨"app"⟩) "App" [("kit", "Kti")])
      ⟨"App", .library, none, [⟨.product "Kti" (some "kit") KeyedSet.empty, none⟩]⟩ "Kti" := by
    refine ⟨htraits, hdiscover, of_decide_eq_true hid, by decide +kernel, by decide +kernel,
      ⟨_, List.mem_singleton_self _, rfl, some "kit", .product _ _ rfl⟩, fun dep hdep => ?_⟩
    rw [List.mem_singleton.1 hdep]
    exact ⟨usingPackages (.registry "kit") "Kit" [], by decide +kernel, by decide +kernel⟩
  exact ⟨⟨g, h, of_decide_eq_true hedges, (Source.load_passes_over _).1 g h⟩,
    ⟨traits, disc, _, _, _, hlacks⟩, (Source.load_passes_over _).2 _ _ _ _ _ _ hlacks⟩

end ModuleGraph
