import ModuleGraph.Proofs.Discovery.Exact
import ModuleGraph.Proofs.PackageView
import ModuleGraph.Proofs.Requirements.Growth
import ModuleGraph.Proofs.Traits.Coverage

/-!
# Which packages of a graph have enabled traits

Trait resolution and discovery go along the same dependencies, each by its own rule.  Trait
resolution expands a package once, with the traits that it has at that moment: a root for the filter
of the options, any other package for everything.  Discovery follows what packages require for the
traits that they have in the end, and for filters that grow on the way.  So a package with enabled
traits may depend on one without, which is a gap.  There are three reasons for that.

- The traits of the package have changed after its expansion, since a request came late, and the
  dependency is followed for the new ones alone.  This is meant to be: a late request updates the
  record of a package, but does not expand the package again.
- The package is a root that requires the dependency for the filter that discovery has widened, but
  not for the one of the options.
- The package is no root, and its dependency is required for some of its products, but overlooked
  when everything is needed.

The last two are at odds with the purpose of trait resolution, to give enabled traits to every
package that is reached.

## Key results

- `Source.MadeFrom.gap`: why a package with enabled traits depends on one without
- `Source.load_covers`: but for dependencies that are missed, the packages of a graph have enabled
  traits, or they lie behind a late request
-/

namespace ModuleGraph

/-- Whether dependencies lead from one package of a graph to another. -/
def Graph.Leads (g : Graph) : Identity → Identity → Prop := Relation.ReflTransGen g.DependsOn

/-- A package with an entry among the enabled traits depends on one that has none. -/
structure Graph.Gap (g : Graph) (a : Package) (b : Identity) : Prop where
  mem : a ∈ g.packages.toList
  enabled : g.enabledTraits.contains a.identity = true
  dependency : b ∈ a.dependencies
  missing : g.enabledTraits.contains b = false

namespace Source

/-- The filter for which trait resolution expands a package. -/
def expansionFilter (s : Source) (p : Package) : ProductFilter :=
  if p.isRoot then s.options.filter else .everything

/-- Trait resolution follows a dependency of one package on another when it expands that one with
some traits. -/
def Follows (s : Source) (p : Package) (traits : Names) (id : Identity) : Prop :=
  ∃ dep ∈ p.manifest.followed s.mirrors.identify (s.expansionFilter p) traits,
    s.mirrors.identify dep.origin = id

instance (s : Source) (p : Package) (traits : Names) (id : Identity) :
    Decidable (s.Follows p traits id) :=
  inferInstanceAs (Decidable (∃ dep ∈ _, _))

/-- A gap where the package was asked again after its expansion: its dependency is followed for the
traits that it has in the end, but not for those that it was expanded with. -/
structure LateRequest (s : Source) (g : Graph) (log : List TraitEvent) (a : Package)
    (b : Identity) : Prop extends Graph.Gap g a b where
  followed : s.Follows a a.enabledTraits b
  late : ∃ traits request, ¬ s.Follows a traits b ∧
    [TraitEvent.expanded a.identity (s.expansionFilter a) traits,
      .asked a.identity request].Sublist log

/-- A gap where the package is a root: its dependency is required for a filter that has grown, but
not followed for the one of the options. -/
structure WidenedRoot (s : Source) (g : Graph) (a : Package) (b : Identity) : Prop
    extends Graph.Gap g a b where
  isRoot : a.isRoot = true
  notFollowed : ¬ s.Follows a a.enabledTraits b
  widened : ∃ filter, s.options.filter.Within filter ∧ filter ≠ s.options.filter ∧
    filter.Within a.filter ∧ ∃ dep f,
      (dep, f) ∈ a.manifest.requiredDependencies s.mirrors.identify filter a.enabledTraits ∧
        s.mirrors.identify dep.origin = b

/-- A gap where the package is no root: its dependency is overlooked when everything is needed,
though it is required for some products that are needed of the package. -/
structure OverlooksDependency (s : Source) (g : Graph) (a : Package) (b : Identity) : Prop
    extends Graph.Gap g a b where
  notRoot : a.isRoot = false
  notFollowed : ¬ s.Follows a a.enabledTraits b
  overlooked : ∃ products i dep, (ProductFilter.only products).Within a.filter ∧
    a.manifest.dependencies[i]? = some dep ∧ s.mirrors.identify dep.origin = b ∧
      a.manifest.Overlooks s.mirrors.identify a.enabledTraits products i

/-- Trait resolution misses a dependency for another reason than a late request. -/
def Misses (s : Source) (g : Graph) (a : Package) (b : Identity) : Prop :=
  s.WidenedRoot g a b ∨ s.OverlooksDependency g a b

/-- A dependency that is missed is not followed for the traits that its package has in the end. -/
theorem Misses.not_follows {s : Source} {g : Graph} {a : Package} {b : Identity}
    (h : s.Misses g a b) : g.Gap a b ∧ ¬ s.Follows a a.enabledTraits b :=
  h.elim (fun h => ⟨h.toGap, h.notFollowed⟩) fun h => ⟨h.toGap, h.notFollowed⟩

/-- Dependencies that trait resolution does not miss lead to a package, from a root or from a
dependency beside the roots. -/
def LeadsTo (s : Source) (g : Graph) (id : Identity) : Prop :=
  ∃ start, s.catalog.IsInput s.mirrors s.rootDependencies start ∧
    Relation.ReflTransGen (fun p q => ∃ a ∈ g.packages.toList,
      a.identity = p ∧ q ∈ a.dependencies ∧ ¬ s.Misses g a q) start id

end Source

/-! ### Walks that meet an exception, or leave a property -/

/-- A walk goes by steps of one kind alone, or has a step that is not of that kind. -/
theorem reflTransGen_or_exists {α : Type} {r r' : α → α → Prop} {a b : α}
    (h : Relation.ReflTransGen r a b) :
    Relation.ReflTransGen r' a b ∨
      ∃ x y, r x y ∧ ¬ r' x y ∧ Relation.ReflTransGen r y b := by
  -- Induction on the walk: the last step is the exception if there has been none before.
  induction h with
  | refl => exact .inl .refl
  | @tail b c _ hbc ih =>
    rcases ih with hab | ⟨x, y, hxy, hnot, hyb⟩
    · by_cases hstep : r' b c
      · exact .inl (hab.tail hstep)
      · exact .inr ⟨b, c, hbc, hstep, .refl⟩
    · exact .inr ⟨x, y, hxy, hnot, hyb.tail hbc⟩

/-- A walk that ends where a property fails has a last node before it fails. -/
theorem exists_exit {α : Type} {r : α → α → Prop} {p : α → Prop} {a b : α}
    (h : Relation.ReflTransGen r a b) (ha : p a) :
    p b ∨ ∃ x y, p x ∧ r x y ∧ ¬ p y ∧ Relation.ReflTransGen r y b := by
  -- The exceptions are the steps that lose the property.
  rcases @reflTransGen_or_exists α r (fun x y => p x → p y) a b h with
    hkept | ⟨x, y, hxy, hlost, hrest⟩
  · clear h
    left
    induction hkept with
    | refl => exact ha
    | tail _ hstep ih => exact hstep ih
  · obtain ⟨hx, hy⟩ := Classical.not_imp.1 hlost
    exact .inr ⟨x, y, hx, hxy, hy, hrest⟩

/-! ### Why there is a gap -/

namespace Source.MadeFrom

variable {s : Source} {g : Graph} {w : TraitWalk} {d : Discovery} {packages : List Package}
  {log : List TraitEvent} {a : Package} {b : Identity}

/-- What a package depends on has a manifest. -/
theorem has_of_dependency (h : s.MadeFrom g w d packages) (ha : a ∈ g.packages.toList)
    (hb : b ∈ a.dependencies) : b ∈ d.edgesOf a.identity ∧ s.catalog.has b = true := by
  have hedge : b ∈ d.edgesOf a.identity := (h.isPackage ha).2.2.dependencies ▸ hb
  exact ⟨hedge, ((Catalog.discover_sound h.discovery).edges a.identity b hedge).2.1⟩

/-- Whatever is followed for an expansion has an entry in the end. -/
theorem not_follows_of_missing (h : s.MadeFrom g w d packages)
    (hrun : TraitsRun s.catalog s.mirrors s.rootDependencies s.options.traits s.options.filter
      log w)
    (hgap : g.Gap a b) {traits : Names}
    (hexp : .expanded a.identity (s.expansionFilter a) traits ∈ log) : ¬ s.Follows a traits b := by
  rintro ⟨dep, hdep, rfl⟩
  obtain ⟨-, ham, -⟩ := h.isPackage hgap.mem
  obtain ⟨m, hm, hasked⟩ := hrun.asked_of_expanded hexp
  rw [ham] at hm
  cases hm
  obtain ⟨request, hmem⟩ := hasked dep hdep
  have hhas := (h.has_of_dependency hgap.mem hgap.dependency).2
  have hmissing := hgap.missing
  rw [h.graphTraits, hrun.enabled_of_asked hhas hmem] at hmissing
  exact nomatch hmissing

/-- A package with an entry was expanded for its filter. -/
theorem exists_expanded (h : s.MadeFrom g w d packages)
    (hrun : TraitsRun s.catalog s.mirrors s.rootDependencies s.options.traits s.options.filter
      log w)
    (ha : a ∈ g.packages.toList) (henabled : g.enabledTraits.contains a.identity = true) :
    ∃ traits, .expanded a.identity (s.expansionFilter a) traits ∈ log := by
  rw [h.graphTraits] at henabled
  obtain ⟨f, traits, hexp⟩ := hrun.expanded_of_enabled henabled
  have hroot : a.isRoot = s.catalog.isRoot a.identity := (h.isPackage ha).2.2.isRoot
  have hfilter : f = s.expansionFilter a := by
    rw [hrun.filter_of_expanded hexp, Source.expansionFilter, hroot]
  exact ⟨traits, hfilter ▸ hexp⟩

/-- A dependency that is not followed for the final traits was required at some visit of its package
for a filter that has grown, or it is overlooked. -/
theorem misses_of_not_follows (h : s.MadeFrom g w d packages) (hgap : g.Gap a b)
    (hnot : ¬ s.Follows a a.enabledTraits b) : s.Misses g a b := by
  obtain ⟨-, ham, hpackage⟩ := h.isPackage hgap.mem
  have henabled : w.enabled.of a.identity = a.enabledTraits := hpackage.enabledTraits.symm
  have hedge := (h.has_of_dependency hgap.mem hgap.dependency).1
  -- The edge comes from a visit, where the dependency was required.
  obtain ⟨start, filter, hstart, hvisited, ⟨dep, f⟩, hrequired, rfl⟩ :=
    Catalog.exists_visit_of_noted h.discovery (.inl hedge)
  rw [Catalog.requirements, ham, henabled] at hrequired
  have hwithin : filter.Within a.filter := by
    rw [hpackage.filter]
    exact (hvisited.within (Catalog.entered_sound hstart)).2
  have hnotRequired (f' : ProductFilter) : (dep, f') ∉ a.manifest.requiredDependencies
      s.mirrors.identify (s.expansionFilter a) a.enabledTraits := fun hmem =>
    hnot ⟨dep, List.mem_append_left _ (List.mem_map_of_mem hmem), rfl⟩
  cases hroot : a.isRoot with
  | true =>
    have hfilter : s.expansionFilter a = s.options.filter := by rw [expansionFilter, if_pos hroot]
    have hisRoot : s.catalog.isRoot a.identity = true := hpackage.isRoot.symm.trans hroot
    have hid : a.identity ∈ s.catalog.roots := by simpa [Catalog.isRoot] using hisRoot
    refine .inl ⟨hgap, hroot, hnot, filter, Catalog.rootFilter_within hstart hid hvisited, ?_,
      hwithin, dep, f, hrequired, rfl⟩
    rintro rfl
    exact hnotRequired f (hfilter ▸ hrequired)
  | false =>
    have hfilter : s.expansionFilter a = .everything := by
      rw [expansionFilter, if_neg (by simp [hroot])]
    rw [hfilter] at hnotRequired
    obtain ⟨i, hdep, hreq⟩ := (Manifest.mem_requiredDependencies ..).1 hrequired
    -- For everything it would have been followed, so the visit was for some products.
    cases filter with
    | everything => exact absurd hrequired (hnotRequired f)
    | only products =>
      refine .inr ⟨hgap, hroot, hnot, products, i, dep, hwithin, hdep, rfl, ?_⟩
      by_contra hkept
      have hreq' := Manifest.requirement?_everything hreq hkept
      exact hnotRequired _ ((Manifest.mem_requiredDependencies ..).2 ⟨i, hdep, hreq'⟩)

/-- A package with enabled traits depends on one without because a request came late, or because
trait resolution misses the dependency. -/
theorem gap (h : s.MadeFrom g w d packages)
    (hrun : TraitsRun s.catalog s.mirrors s.rootDependencies s.options.traits s.options.filter
      log w)
    (hgap : g.Gap a b) : s.LateRequest g log a b ∨ s.Misses g a b := by
  obtain ⟨traits, hexp⟩ := h.exists_expanded hrun hgap.mem hgap.enabled
  have hnot := h.not_follows_of_missing hrun hgap hexp
  by_cases hfinal : s.Follows a a.enabledTraits b
  · -- The traits have changed, so the package was asked after its expansion.
    have hpackage := (h.isPackage hgap.mem).2.2
    rcases hrun.keptOrAsked hexp with hkept | ⟨request, hsub⟩
    · have hsame : a.enabledTraits = traits := hpackage.enabledTraits.trans hkept
      exact absurd (hsame ▸ hfinal) hnot
    · exact .inl ⟨hgap, hfinal, traits, request, hnot, hsub⟩
  · exact .inr (h.misses_of_not_follows hgap hfinal)

/-- The edges of discovery are the dependencies of the packages. -/
theorem dependsOn_of_edge (h : s.MadeFrom g w d packages) {p q : Identity}
    (hedge : q ∈ d.edgesOf p) : g.DependsOn p q := by
  obtain ⟨⟨hhas, hmem⟩, -⟩ := (Catalog.discover_sound h.discovery).edges p q hedge
  obtain ⟨a, ha, rfl⟩ := h.exists_package hmem hhas
  exact ⟨a, ha, rfl, (h.isPackage ha).2.2.dependencies ▸ hedge⟩

end Source.MadeFrom

/-! ### Coverage -/

/-- Every package of a graph to which dependencies lead that trait resolution does not miss has an
entry among the enabled traits, or it lies behind a late request.  Any other package lies behind a
dependency that is missed. -/
theorem Source.load_covers {s : Source} {g : Graph} (h : s.load.result = .ok g) :
    ∃ log w, TraitsRun s.catalog s.mirrors s.rootDependencies s.options.traits s.options.filter
        log w ∧ g.enabledTraits = w.enabled ∧
      (∀ p ∈ g.packages.toList, s.LeadsTo g p.identity →
        g.enabledTraits.contains p.identity = true ∨
          ∃ a b, s.LateRequest g log a b ∧ g.Leads b p.identity) ∧
      ∀ p ∈ g.packages.toList, s.LeadsTo g p.identity ∨
        ∃ a b, s.Misses g a b ∧ g.Leads b p.identity := by
  obtain ⟨w, d, packages, hfrom⟩ := Source.load_ok h
  obtain ⟨log, hrun⟩ := Catalog.exists_traitsRun hfrom.traits
  refine ⟨log, w, hrun, hfrom.graphTraits, fun p hp ⟨start, hstart, hlead⟩ => ?_, fun p hp => ?_⟩
  · -- Either the whole way has entries, or it has a last package with one.
    have hhas : s.catalog.has start = true := by
      rcases Relation.ReflTransGen.cases_head hlead with rfl | ⟨_, ⟨a, ha, rfl, -⟩, -⟩
      · exact Catalog.has_iff.2 ⟨_, (hfrom.isPackage hp).2.1⟩
      · exact Catalog.has_iff.2 ⟨_, (hfrom.isPackage ha).2.1⟩
    have hentered : g.enabledTraits.contains start = true := by
      rw [hfrom.graphTraits]
      exact hrun.enabled_of_start hhas hstart.mem_startsOf
    rcases exists_exit (p := fun id => g.enabledTraits.contains id = true) hlead hentered with
      hdone | ⟨_, b, hx, ⟨a, ha, rfl, hb, hkept⟩, hnone, hrest⟩
    · exact .inl hdone
    · have hgap : g.Gap a b := ⟨ha, hx, hb, by simpa using hnone⟩
      refine .inr ⟨a, b, (hfrom.gap hrun hgap).resolve_right hkept, ?_⟩
      exact Relation.ReflTransGen.mono (fun _ _ ⟨e, he, hid, hmem, _⟩ => ⟨e, he, hid, hmem⟩)
        _ _ hrest
  · obtain ⟨start, hstart, hlead⟩ := (Catalog.discover_traced
      (Catalog.listsRoots_ofList s.mirrors s.manifests) hfrom.discovery).exists_input
      (hfrom.isPackage hp).1
    have hleads : g.Leads start p.identity :=
      Relation.ReflTransGen.mono (fun _ _ hedge => hfrom.dependsOn_of_edge hedge) _ _ hlead
    rcases reflTransGen_or_exists hleads with hkept | ⟨_, b, ⟨a, ha, rfl, hb⟩, hnot, hrest⟩
    · exact .inl ⟨start, hstart, hkept⟩
    · refine .inr ⟨a, b, ?_, hrest⟩
      by_contra hkept
      exact hnot ⟨a, ha, rfl, hb, hkept⟩

/-- A package that needs another one for a trait, which is asked for when the package has been
expanded. -/
def lateRequest : Source :=
  Source.ofManifests
    [{ Manifest.bare (.root ⟨"app"⟩) "App" with
        modules := [⟨"App", .library, none, []⟩]
        dependencies := [.onRegistry "a" none, .onRegistry "b" none] },
      { Manifest.bare (.registry "a") "A" with dependencies := [.onRegistry "kit" none] },
      { Manifest.bare (.registry "b") "B" with
        dependencies := [.onRegistry "kit" (some ["Tls"])] },
      { Manifest.bare (.registry "kit") "Kit" with
        modules := [⟨"Kit", .library, none,
          [⟨.product "Ssl" (some "ssl") KeyedSet.empty,
            some ⟨none, none, some (KeyedSet.ofList ["Tls"])⟩⟩]⟩]
        dependencies := [.onRegistry "ssl" none]
        traits := [⟨"Tls", KeyedSet.empty, none⟩] },
      { Manifest.bare (.registry "ssl") "Ssl" with
        modules := [⟨"Ssl", .library, none, []⟩]
        products := [⟨"Ssl", .library, ["Ssl"]⟩] }]

/-- The package that is needed for a late request has no entry. -/
theorem lateRequest_not_enabled :
    ∃ g, lateRequest.load.result = .ok g ∧
      ∃ p ∈ g.packages.toList, g.enabledTraits.contains p.identity = false := by
  have hany : (lateRequest.load.result.toOption.any fun g =>
      g.packages.toList.any fun p => !g.enabledTraits.contains p.identity) = true := by
    decide +kernel
  obtain ⟨g, h, hmissing⟩ := Except.exists_ok_of_any hany
  obtain ⟨p, hp, hmissing⟩ := List.any_eq_true.1 hmissing
  exact ⟨g, h, p, hp, by simpa using hmissing⟩

/-- The package that is needed for a late request lies behind it, and nothing is missed. -/
theorem load_covers_lateRequest :
    ∃ g log w, lateRequest.load.result = .ok g ∧
      TraitsRun lateRequest.catalog lateRequest.mirrors lateRequest.rootDependencies
        lateRequest.options.traits lateRequest.options.filter log w ∧
      g.enabledTraits = w.enabled ∧
      ∃ p ∈ g.packages.toList, lateRequest.LeadsTo g p.identity ∧
        g.enabledTraits.contains p.identity = false ∧
        ∃ a b, lateRequest.LateRequest g log a b ∧ g.Leads b p.identity := by
  have hany : (lateRequest.load.result.toOption.any fun g => decide (
      (∃ p ∈ g.packages.toList, g.enabledTraits.contains p.identity = false) ∧
      ∀ a ∈ g.packages.toList, ∀ b ∈ a.dependencies,
        lateRequest.Follows a a.enabledTraits b)) = true := by
    decide +kernel
  obtain ⟨g, h, hg⟩ := Except.exists_ok_of_any hany
  obtain ⟨⟨p, hp, hmissing⟩, hfollows⟩ := of_decide_eq_true hg
  obtain ⟨log, w, hrun, htraits, hcovers, hleads⟩ := Source.load_covers h
  -- All dependencies are followed for the final traits, so none is missed.
  have hlead : lateRequest.LeadsTo g p.identity := (hleads p hp).resolve_right
    fun ⟨a, b, hmisses, _⟩ =>
      hmisses.not_follows.2
        (hfollows a hmisses.not_follows.1.mem b hmisses.not_follows.1.dependency)
  -- And the package has no entry, so only a late request can be the reason.
  have hlate := (hcovers p hp hlead).resolve_left (by simp [hmissing])
  exact ⟨g, log, w, h, hrun, htraits, p, hp, hlead, hmissing, hlate⟩

/-- A dependency is missed that has no entry and is not followed for the final traits. -/
theorem Source.exists_misses (s : Source) (root : Bool) (id : Identity)
    (h : (s.load.result.toOption.any fun g => decide (∃ a ∈ g.packages.toList, a.isRoot = root ∧
      g.enabledTraits.contains a.identity = true ∧ id ∈ a.dependencies ∧
      g.enabledTraits.contains id = false ∧ ¬ s.Follows a a.enabledTraits id)) = true) :
    ∃ g a, s.load.result = .ok g ∧ a.isRoot = root ∧ s.Misses g a id := by
  obtain ⟨g, hload, hg⟩ := Except.exists_ok_of_any h
  obtain ⟨a, ha, hroot, henabled, hdep, hmissing, hnot⟩ := of_decide_eq_true hg
  obtain ⟨w, d, packages, hfrom⟩ := Source.load_ok hload
  exact ⟨g, a, hload, hroot, hfrom.misses_of_not_follows ⟨ha, henabled, hdep, hmissing⟩ hnot⟩

/-- Two roots, the first of which needs a product of the second one, for which that needs a package.
The options need a product of the first root alone. -/
def widenedRoots : Source :=
  { Source.ofManifests
      [usingPackages (.root ⟨"/app"⟩) "App" [("kit", "Kit")],
        usingPackages (.root ⟨"/kit"⟩) "Kit" [("log", "Log")],
        usingPackages (.registry "log") "Log" []] with
    options := { Options.standard with filter := .ofList ["App"] } }

/-- The package that the second root needs is missed. -/
theorem widenedRoots_misses :
    ∃ g a, widenedRoots.load.result = .ok g ∧ widenedRoots.WidenedRoot g a ⟨"log"⟩ := by
  obtain ⟨g, a, hload, hroot, hmisses⟩ :=
    widenedRoots.exists_misses true ⟨"log"⟩ (by decide +kernel)
  refine ⟨g, a, hload, hmisses.resolve_right fun hover => ?_⟩
  exact absurd hroot (by simp [hover.notRoot])

/-- A package that refers to a product without naming a package, and to one of the package `log` for
a trait that is not enabled. -/
def overlookingKit : Source :=
  { Source.ofManifests
      [usingPackages (.root ⟨"/app"⟩) "App" [("kit", "Kit")],
        { usingPackages (.registry "kit") "Kit" [] with
          modules := [⟨"Kit", .library, none,
            [⟨.product "Foo" none KeyedSet.empty, none⟩,
              ⟨.product "Bar" (some "log") KeyedSet.empty,
                some ⟨none, none, some (KeyedSet.ofList ["Tls"])⟩⟩]⟩]
          dependencies := [.onRegistry "log" none]
          traits := [⟨"Tls", KeyedSet.empty, none⟩] },
        { Manifest.bare (.registry "log") "Log" with
          modules := [⟨"Foo", .library, none, []⟩, ⟨"Bar", .library, none, []⟩]
          products := [⟨"Foo", .library, ["Foo"]⟩, ⟨"Bar", .library, ["Bar"]⟩] }] with
    options := { Options.standard with filter := .ofList ["App"] } }

/-- The package `log` vends the product, but it is overlooked when everything is needed. -/
theorem overlookingKit_misses :
    ∃ g a, overlookingKit.load.result = .ok g ∧
      overlookingKit.OverlooksDependency g a ⟨"log"⟩ := by
  obtain ⟨g, a, hload, hroot, hmisses⟩ :=
    overlookingKit.exists_misses false ⟨"log"⟩ (by decide +kernel)
  refine ⟨g, a, hload, hmisses.resolve_left fun hwidened => ?_⟩
  exact absurd hwidened.isRoot (by simp [hroot])

end ModuleGraph
