import ModuleGraph.Proofs.Discovery.Listed

/-!
# Which packages a graph requires

A loaded graph lists the packages that it requires, roots excepted: those that are part of it, and
those without a manifest that a dependency beside the roots means or that a package requires in the
end.  Discovery lists a package when it is required, and the filter of a package only grows while it
goes on.  What is required for some products stays required for more of them, but not always when
everything is needed: then a dependency is left out if all references to it are disabled, although
it may have been required for the sake of a reference that names no package.  A package that has
been listed for such a dependency stays in the list.

## Key results

- `Source.load_required_iff`: which packages a loaded graph lists as required
-/

namespace ModuleGraph

open Discovery (Visited DeclaredSoFar RootOrListed Located)

namespace Source

/-- A dependency on the package is beside the roots or required in the end. -/
def NeedsPackage (s : Source) (g : Graph) (id : Identity) : Prop :=
  ∃ dep, s.Needs g dep ∧ s.mirrors.identify dep.origin = id

/-- When the packages of the graph were discovered, one was visited for a filter. -/
def Visits (s : Source) (g : Graph) (p : Identity) (f : ProductFilter) : Prop :=
  ∃ start d, s.catalog.entered s.mirrors s.rootDependencies s.options.filter = .ok start ∧
    s.catalog.discover s.mirrors g.enabledTraits s.rootDependencies s.options.filter = .ok d ∧
    Visited s.catalog s.mirrors g.enabledTraits start d p f

/-- A package of the graph required a dependency when it was visited for some of its products, and
does not require it in the end, when everything is needed of the package. -/
structure OutgrownBy (s : Source) (g : Graph) (p : Package) (products : Names) (dep : Dependency) :
    Prop where
  package : p ∈ g.packages.toList
  everything : p.filter = .everything
  visited : s.Visits g p.identity (.only products)
  required : ∃ f,
    (dep, f) ∈ p.manifest.requiredDependencies s.mirrors.identify (.only products) p.enabledTraits
  leftOut : ∀ f,
    (dep, f) ∉ p.manifest.requiredDependencies s.mirrors.identify .everything p.enabledTraits

/-- The package of a dependency that is not required in the end was listed on the way. -/
def Outgrown (s : Source) (g : Graph) (id : Identity) : Prop :=
  ∃ p products dep, s.OutgrownBy g p products dep ∧ s.mirrors.identify dep.origin = id

variable {s : Source} {g : Graph} {parts : Parts}

namespace BuiltFrom

variable (h : s.BuiltFrom g parts)
include h

/-- Discovery was made with the traits of the graph. -/
theorem discover_eq :
    s.catalog.discover s.mirrors g.enabledTraits s.rootDependencies s.options.filter =
      .ok parts.discovery := by
  rw [h.traits]
  exact (assembled_ok h.assembled).2.1

/-- The roots of the catalog are the identities of the root packages. -/
theorem isRoot_iff {id : Identity} :
    s.catalog.isRoot id = true ↔ ∃ root ∈ g.rootPackages.toList, root.identity = id := by
  constructor
  · exact h.exists_rootPackage
  · rintro ⟨root, hroot, rfl⟩
    obtain ⟨hp, hisRoot⟩ := h.mem_rootPackages.1 hroot
    rw [← (h.manifest hp).2, hisRoot]

/-- A package that was visited is part of the graph, with a filter that has only grown since. -/
theorem exists_package_of_visited {start : Discovery} {p : Identity} {f : ProductFilter}
    (hstart : s.catalog.entered s.mirrors s.rootDependencies s.options.filter = .ok start)
    (hvisited : Visited s.catalog s.mirrors g.enabledTraits start parts.discovery p f) :
    ∃ q ∈ g.packages.toList, q.identity = p ∧ f.Within q.filter := by
  obtain ⟨w, hmade, -⟩ := h.exists_madeFrom
  have hroots := Catalog.listsRoots_ofList s.mirrors s.manifests
  obtain ⟨hmet, hwithin⟩ := hvisited.within (Catalog.entered_sound hstart)
  have hhas := (Catalog.discover_traced hroots h.discover_eq).loaded p hmet
  obtain ⟨q, hq, rfl⟩ := hmade.exists_package hmet hhas
  exact ⟨q, hq, rfl, (h.isPackage hq).filter ▸ hwithin⟩

/-- A package of the graph was visited for the filter that it has in the end. -/
theorem visited_of_mem {start : Discovery}
    (hstart : s.catalog.entered s.mirrors s.rootDependencies s.options.filter = .ok start)
    {p : Package} (hp : p ∈ g.packages.toList) :
    Visited s.catalog s.mirrors g.enabledTraits start parts.discovery p.identity p.filter := by
  obtain ⟨w, hmade, -⟩ := h.exists_madeFrom
  obtain ⟨start', hstart', hvisited⟩ := Catalog.discover_lastVisit h.discover_eq
    (hmade.isPackage hp).1
  have hsame : start' = start := Except.ok.inj (hstart'.symm.trans hstart)
  have hfilter : p.filter = parts.discovery.filterOf p.identity := (h.isPackage hp).filter
  rw [hfilter, ← hsame]
  exact hvisited

/-- What a package requires when it is visited is read off its manifest. -/
theorem requirements_eq {p : Package} (hp : p ∈ g.packages.toList) (f : ProductFilter) :
    s.catalog.requirements s.mirrors g.enabledTraits p.identity f =
      p.manifest.requiredDependencies s.mirrors.identify f p.enabledTraits := by
  have htraits : p.enabledTraits = parts.traits.of p.identity := (h.isPackage hp).enabledTraits
  rw [Catalog.requirements, (h.manifest hp).1, h.traits, htraits]

/-- A dependency that was declared on the way is beside the roots, or a package of the graph
declares it. -/
theorem exists_declared_of_declaredSoFar {start : Discovery} {dep : Dependency}
    (hstart : s.catalog.entered s.mirrors s.rootDependencies s.options.filter = .ok start)
    (hdep : DeclaredSoFar s.catalog s.mirrors g.enabledTraits s.rootDependencies start
      parts.discovery dep) :
    dep ∈ s.rootDependencies ∨ ∃ p ∈ g.packages.toList, dep ∈ p.manifest.dependencies := by
  rcases hdep with hdep | ⟨p, f, hvisited, f', hrequired⟩
  · exact .inl hdep
  · obtain ⟨q, hq, rfl, -⟩ := h.exists_package_of_visited hstart hvisited
    rw [h.requirements_eq hq] at hrequired
    obtain ⟨i, hget, -⟩ := (Manifest.mem_requiredDependencies ..).1 hrequired
    exact .inr ⟨q, hq, List.mem_of_getElem? hget⟩

/-- A dependency that was declared on the way is needed in the end, or its package has been listed
for a dependency that is left out in the end. -/
theorem needs_or_outgrown {start : Discovery} {dep : Dependency}
    (hstart : s.catalog.entered s.mirrors s.rootDependencies s.options.filter = .ok start)
    (hdep : DeclaredSoFar s.catalog s.mirrors g.enabledTraits s.rootDependencies start
      parts.discovery dep) :
    s.Needs g dep ∨ s.Outgrown g (s.mirrors.identify dep.origin) := by
  rcases hdep with hdep | ⟨p, f, hvisited, f', hrequired⟩
  · exact .inl (.inl hdep)
  · -- The filter of that visit lies within the final one, for which it may be left out.
    obtain ⟨q, hq, rfl, hwithin⟩ := h.exists_package_of_visited hstart hvisited
    rw [h.requirements_eq hq] at hrequired
    by_cases hkept : ∃ f'', (dep, f'') ∈
        q.manifest.requiredDependencies s.mirrors.identify q.filter q.enabledTraits
    · exact .inl (.inr ⟨q, hq, hkept⟩)
    · rcases Manifest.exists_required_of_within hwithin hrequired with hsome | ⟨hall, products, rfl⟩
      · exact absurd hsome hkept
      · refine .inr ⟨q, products, dep, ⟨hq, hall, ⟨start, _, hstart, h.discover_eq, hvisited⟩,
          ⟨f', hrequired⟩, fun f'' hf'' => hkept ⟨f'', hall ▸ hf''⟩⟩, rfl⟩

/-- What is needed in the end, or was required on the way, was declared on the way. -/
theorem declaredSoFar {start : Discovery}
    (hstart : s.catalog.entered s.mirrors s.rootDependencies s.options.filter = .ok start)
    {id : Identity} (hid : s.NeedsPackage g id ∨ s.Outgrown g id) :
    ∃ dep, DeclaredSoFar s.catalog s.mirrors g.enabledTraits s.rootDependencies start
      parts.discovery dep ∧ s.mirrors.identify dep.origin = id := by
  rcases hid with ⟨dep, hdep | ⟨p, hp, f, hrequired⟩, heq⟩ | ⟨p, products, dep, hout, heq⟩
  · exact ⟨dep, .inl hdep, heq⟩
  · -- Every package has been visited for its final filter.
    have hvisited := h.visited_of_mem hstart hp
    refine ⟨dep, .inr ⟨p.identity, p.filter, hvisited, f, ?_⟩, heq⟩
    rwa [h.requirements_eq hp]
  · obtain ⟨start', d, hstart', hdiscover, hvisited⟩ := hout.visited
    obtain ⟨f, hrequired⟩ := hout.required
    -- There is only one run of discovery.
    have hsame : start' = start := Except.ok.inj (hstart'.symm.trans hstart)
    have hsame' : d = parts.discovery := Except.ok.inj (hdiscover.symm.trans h.discover_eq)
    refine ⟨dep, .inr ⟨p.identity, _, hsame ▸ hsame' ▸ hvisited, f, ?_⟩, heq⟩
    rwa [h.requirements_eq hout.package]

/-- The package of a dependency that was declared on the way is part of the graph if it has a
manifest. -/
theorem exists_package_of_declaredSoFar {start : Discovery} {dep : Dependency}
    (hdep : DeclaredSoFar s.catalog s.mirrors g.enabledTraits s.rootDependencies start
      parts.discovery dep) (hhas : s.catalog.has (s.mirrors.identify dep.origin) = true) :
    ∃ p ∈ g.packages.toList, p.identity = s.mirrors.identify dep.origin := by
  rcases hdep with hdep | ⟨p, f, hvisited, f', hrequired⟩
  · exact h.exists_input (.inr ⟨hhas, dep, hdep, rfl⟩)
  · obtain ⟨w, hmade, -⟩ := h.exists_madeFrom
    have hroots := Catalog.listsRoots_ofList s.mirrors s.manifests
    have htraced := Catalog.discover_traced hroots h.discover_eq
    obtain ⟨hedge, -⟩ := (hvisited.met (dep, f') hrequired).loaded hhas
    exact hmade.exists_package (htraced.edges p _ hedge).2.2 hhas

/-- A dependency that was declared on the way is where discovery has entered it. -/
theorem located_of_declaredSoFar {start : Discovery} {dep : Dependency}
    (hdep : DeclaredSoFar s.catalog s.mirrors g.enabledTraits s.rootDependencies start
      parts.discovery dep) : Located s.catalog s.mirrors parts.discovery dep := by
  rcases hdep with hdep | ⟨p, f, hvisited, f', hrequired⟩
  · exact h.located (.inl hdep)
  · exact hvisited.located (dep, f') hrequired

end BuiltFrom

/-- A loaded graph lists every package once that it requires, and no root: those that are part of
it, and those without a manifest that are needed in the end or have been listed for a dependency
that is left out in the end.  Each one is listed at the place where a dependency has it, which is
that of all dependencies on it that are needed in the end. -/
theorem load_required_iff (h : s.load.result = .ok g) :
    (g.required.map (·.identity)).Nodup ∧
      (∀ id, (∃ r ∈ g.required, r.identity = id) ↔
        (∀ root ∈ g.rootPackages.toList, root.identity ≠ id) ∧
          ((∃ p ∈ g.packages.toList, p.identity = id) ∨
            s.catalog.has id = false ∧ (s.NeedsPackage g id ∨ s.Outgrown g id))) ∧
      ∀ r ∈ g.required,
        (∃ dep, (dep ∈ s.rootDependencies ∨
            ∃ p ∈ g.packages.toList, dep ∈ p.manifest.dependencies) ∧
          r = ⟨s.mirrors.identify dep.origin, dep.origin⟩) ∧
        ∀ dep, s.Needs g dep → s.mirrors.identify dep.origin = r.identity →
          dep.origin.canonical = r.origin.canonical := by
  obtain ⟨parts, hbuilt⟩ := exists_builtFrom h
  obtain ⟨start, hstart, hlisting, hall⟩ := Catalog.discover_listing hbuilt.discover_eq
  rw [hbuilt.required]
  refine ⟨hlisting.once, fun id => ⟨?_, ?_⟩, fun r hr => ?_⟩
  · rintro ⟨r, hr, rfl⟩
    have hnotRoot := hlisting.notRoot r hr
    obtain ⟨dep, hdep, rfl⟩ := hlisting.declared r hr
    refine ⟨fun root hroot heq => ?_, ?_⟩
    · rw [hbuilt.isRoot_iff.2 ⟨root, hroot, heq⟩] at hnotRoot
      exact nomatch hnotRoot
    · cases hhas : s.catalog.has (s.mirrors.identify dep.origin) with
      | true => exact .inl (hbuilt.exists_package_of_declaredSoFar hdep hhas)
      | false =>
        refine .inr ⟨rfl, ?_⟩
        exact (hbuilt.needs_or_outgrown hstart hdep).imp_left fun hneeds => ⟨dep, hneeds, rfl⟩
  · rintro ⟨hnotRoot, hcase⟩
    have hlisted : RootOrListed s.catalog parts.discovery id := by
      rcases hcase with ⟨p, hp, rfl⟩ | ⟨-, hneeds⟩
      · obtain ⟨w, hmade, -⟩ := hbuilt.exists_madeFrom
        exact hlisting.met p.identity (hmade.isPackage hp).1
      · obtain ⟨dep, hdep, rfl⟩ := hbuilt.declaredSoFar hstart hneeds
        exact hall dep hdep
    refine hlisted.resolve_left fun hroot => ?_
    obtain ⟨root, hmem, heq⟩ := hbuilt.isRoot_iff.1 hroot
    exact hnotRoot root hmem heq
  · have hnotRoot := hlisting.notRoot r hr
    obtain ⟨dep, hdep, rfl⟩ := hlisting.declared r hr
    refine ⟨⟨dep, hbuilt.exists_declared_of_declaredSoFar hstart hdep, rfl⟩,
      fun dep' hneeds hid => ?_⟩
    -- Both are where discovery has entered them.
    have hagree := (hbuilt.located hneeds).agree (hbuilt.located_of_declaredSoFar hdep)
    exact hagree.1 hid (hid ▸ hnotRoot)

end Source

/-- A package of which the root needs one product first, and a package beside the root everything
later.  The product refers to a product without a package, and to one of a missing package for a
trait that is not enabled. -/
def outgrownDependency : Source :=
  { Source.ofManifests
      [usingPackages (.root ⟨"/app"⟩) "App" [("kit", "Kit")],
        usingPackages (.registry "side") "Side" [("mid", "Mid")],
        usingPackages (.registry "mid") "Mid" [("kit", "Kit")],
        { usingPackages (.registry "kit") "Kit" [] with
          modules := [⟨"Kit", .library, none,
            [⟨.product "Foo" none KeyedSet.empty, none⟩,
              ⟨.product "Bar" (some "gone") KeyedSet.empty,
                some ⟨none, none, some (KeyedSet.ofList ["Tls"])⟩⟩]⟩]
          dependencies := [.onRegistry "gone" none]
          traits := [⟨"Tls", KeyedSet.empty, none⟩] }] with
    rootDependencies := [.onRegistry "side" none]
    options := { Options.standard with filter := .ofList ["App"] } }

/-- The missing package is listed as required, but nothing in the graph needs it in the end. -/
theorem load_required_iff_outgrownDependency :
    ∃ g, outgrownDependency.load.result = .ok g ∧ (∃ r ∈ g.required, r.identity = ⟨"gone"⟩) ∧
      ¬ outgrownDependency.NeedsPackage g ⟨"gone"⟩ ∧ outgrownDependency.Outgrown g ⟨"gone"⟩ := by
  have hany : (outgrownDependency.load.result.toOption.any fun g => decide (
      (∃ r ∈ g.required, r.identity = ⟨"gone"⟩) ∧
      (∀ p ∈ g.packages.toList, p.identity ≠ ⟨"gone"⟩) ∧
      ∀ p ∈ g.packages.toList, ∀ entry ∈ p.manifest.requiredDependencies
        outgrownDependency.mirrors.identify p.filter p.enabledTraits,
          outgrownDependency.mirrors.identify entry.1.origin ≠ ⟨"gone"⟩)) = true := by
    decide +kernel
  have hextra : ∀ dep ∈ outgrownDependency.rootDependencies,
      outgrownDependency.mirrors.identify dep.origin ≠ ⟨"gone"⟩ := by decide +kernel
  obtain ⟨g, h, hg⟩ := Except.exists_ok_of_any hany
  obtain ⟨hlisted, hpackages, hrequired⟩ := of_decide_eq_true hg
  -- Neither the inputs nor the packages of the graph need it, so only the other case is left.
  have hneeds : ¬ outgrownDependency.NeedsPackage g ⟨"gone"⟩ := by
    rintro ⟨dep, hdep | ⟨p, hp, f, hreq⟩, hid⟩
    · exact hextra dep hdep hid
    · exact hrequired p hp (dep, f) hreq hid
  obtain ⟨-, hiff, -⟩ := Source.load_required_iff h
  obtain ⟨-, ⟨p, hp, hid⟩ | ⟨-, hcase⟩⟩ := (hiff ⟨"gone"⟩).1 hlisted
  · exact absurd hid (hpackages p hp)
  · exact ⟨g, h, hlisted, hneeds, hcase.resolve_left hneeds⟩

end ModuleGraph
