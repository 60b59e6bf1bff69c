import ModuleGraph.Proofs.PackageCycles
import ModuleGraph.Proofs.Validity

/-!
# Cycles of modules

Cycles are looked for among the modules, before a graph is made; what can be reached is listed
later, among modules and products.  Where ids are distinct, both follow the same dependencies
(`DependsOn`), so nothing that has passed the check can fail for a cycle afterwards.

## Key results

- `DistinctIds.exists_graph`: a graph can be made from packages that have passed the check
- `Source.load_reports_cycles`: what a cycle of modules leads to
-/

namespace ModuleGraph

namespace Assembly.Assembled

/-- A module depends on another one, directly or through a product, in whatever environment. -/
def DependsOn (a : Assembled) (m n : Module) : Prop :=
  n ∈ a.modules ∧ ∃ e ∈ m.edges, e.target = .module n.id ∨
    ∃ p ∈ a.products, e.target = .product p.id ∧ n.id ∈ p.modules

instance (a : Assembled) (m n : Module) : Decidable (a.DependsOn m n) :=
  inferInstanceAs (Decidable (_ ∧ _))

/-- A walk along dependencies into a cycle and once around it. -/
structure IsWalk (a : Assembled) (w : Cycle Module) : Prop where
  within : ∀ m ∈ w.path ++ w.cycle, m ∈ a.modules
  follows : w.closedWalk.IsChain a.DependsOn
  distinct : ((w.path ++ w.cycle).map Module.id).Nodup
  closed : w.cycle ≠ []

/-- Packages that are no valid graph are refused for what is wrong with a package. -/
theorem check_error {a : Assembled} {e : GraphError} (he : a.check = .error e) :
    ∃ e', e = .package e' := by
  rcases a.check_cases with ⟨hok, -⟩ | ⟨fault, -, herror⟩
  · rw [hok] at he
    exact nomatch he
  · rw [herror] at he
    exact ⟨fault, (Except.error.inj he).symm⟩

namespace DistinctIds

variable {a : Assembled} (h : a.DistinctIds)
include h

/-- The nodes of the lookup are the modules and products of the packages. -/
theorem mem_nodes {x : Node} : x ∈ a.lookup.nodes ↔ ∃ p ∈ a.packages, x ∈ p.nodes := by
  cases x with
  | module m => simp [h.mem_modules, Assembled.modules, Package.nodes]
  | product q => simp [h.mem_products, Assembled.products, Package.nodes]

/-- What modules use according to the lookup is what they depend on. -/
theorem uses_iff {m n : Module} : a.lookup.Uses m n ↔ a.DependsOn m n := by
  unfold Lookup.Uses DependsOn
  simp only [h.mem_modules, h.mem_products]

/-- A walk along uses is a walk along dependencies. -/
theorem isWalk {w : Cycle Module} (hw : a.lookup.IsWalk w) : a.IsWalk w where
  within := fun m hm => h.mem_modules.1 (hw.within m hm)
  follows := hw.follows.imp fun _ _ huses => h.uses_iff.1 huses
  distinct := hw.distinct
  closed := hw.closed

/-- A module that depends on itself is on a cycle. -/
theorem onCycle {m : Module} (hm : m ∈ a.modules) (hcycle : Relation.TransGen a.DependsOn m m) :
    a.lookup.moduleGraph.OnCycle m := by
  have huses : Relation.TransGen a.lookup.Uses m m :=
    Relation.TransGen.mono (fun _ _ hdepends => h.uses_iff.2 hdepends) _ _ hcycle
  exact (Lookup.onCycle_iff (h.mem_modules.2 hm)).2 huses

/-- A graph can be made from packages whose modules have passed the check. -/
theorem exists_graph (hcheck : a.checkModules = .ok ()) (roots inputs : List Identity)
    (required : List Reference) (artifacts : Artifacts) (traits : EnabledTraits) :
    ∃ g, Graph.ofPackages a.packages roots inputs required artifacts traits = .ok g := by
  -- The start nodes are modules and products of assembled packages, which can be looked up.
  have hstarts : ∀ x ∈ (inputs.filterMap
      (KeyedSet.ofList a.packages : PackageSet).find?).flatMap Package.nodes,
      x ∈ a.lookup.nodes := by
    intro x hx
    obtain ⟨p, hp, hx⟩ := List.mem_flatMap.1 hx
    obtain ⟨id, -, hfind⟩ := List.mem_filterMap.1 hp
    have hmem : p ∈ a.packages := KeyedSet.mem_of_mem_ofList (KeyedSet.mem_of_find? hfind)
    exact h.mem_nodes.2 ⟨p, hmem, hx⟩
  obtain ⟨reached, hreached⟩ := Lookup.closure_ok none hstarts (acyclic_of_checkModules hcheck)
  unfold Graph.ofPackages
  simp only [h.lookup_sorted, hreached]
  exact ⟨_, rfl⟩

end DistinctIds

end Assembly.Assembled

namespace Source

open Assembly (Assembled)

/-- Packages that cannot be assembled are refused for what is wrong with a package. -/
theorem assembled_error {s : Source} {e : GraphError} (h : s.assembled = .error e) :
    ∃ e', e = .package e' := by
  unfold assembled at h
  -- Trait resolution, discovery, package cycles and assembly are the steps that may fail.
  rcases Except.bind_eq_error.1 h with h | ⟨traits, -, h⟩
  · obtain ⟨e', -, rfl⟩ := Except.mapError_eq_error.1 h
    exact ⟨_, rfl⟩
  rcases Except.bind_eq_error.1 h with h | ⟨d, -, h⟩
  · obtain ⟨e', -, rfl⟩ := Except.mapError_eq_error.1 h
    exact ⟨_, rfl⟩
  rcases Except.bind_eq_error.1 h with h | ⟨_, -, h⟩
  · obtain ⟨w, rfl⟩ := Discovery.exists_cycleError h
    exact ⟨_, rfl⟩
  rcases Except.bind_eq_error.1 h with h | ⟨a, -, h⟩
  · obtain ⟨e', -, rfl⟩ := Except.mapError_eq_error.1 h
    exact ⟨_, rfl⟩
  · exact nomatch h

/-- Where names do not repeat in a package, loading never meets a cycle that the checks have missed.
If modules depend on each other in a cycle, and nothing is wrong before, loading fails with a walk
along dependencies into a cycle; and if no cycle of modules has been found, a graph can be made. -/
theorem load_reports_cycles {s : Source} (hnames : ∀ a, s.Assembles a → a.DistinctNames) :
    s.load.result ≠ .error .unexpectedCycle ∧
      (∀ a, s.Assembles a → a.checkRoots = .ok () →
        (∃ m ∈ a.modules, Relation.TransGen a.DependsOn m m) →
        ∃ w, a.IsWalk w ∧ s.load.result = .error (Assembled.cycleError w)) ∧
      ∀ a, s.Assembles a → a.checkModules = .ok () →
        ∀ roots inputs required artifacts traits,
          ∃ g, Graph.ofPackages a.packages roots inputs required artifacts traits = .ok g := by
  have hids : ∀ a, s.Assembles a → a.DistinctIds := fun a ha => ha.distinctIds (hnames a ha)
  refine ⟨fun hload => ?_, fun a ha hroots => ?_, fun a ha => (hids a ha).exists_graph⟩
  · rw [load_eq] at hload
    rcases Except.bind_eq_error.1 hload with h | ⟨parts, hparts, h⟩
    · obtain ⟨e', he'⟩ := assembled_error h
      exact nomatch he'
    have hdistinct := hids _ ⟨parts, hparts, rfl⟩
    rcases Except.bind_eq_error.1 h with h | ⟨_, hcheck, h⟩
    · obtain ⟨e', he'⟩ := Assembled.check_error h
      exact nomatch he'
    -- The modules have passed the check, so the graph can be made.
    obtain ⟨_, -, hcheck⟩ := Except.bind_eq_ok.1 hcheck
    obtain ⟨_, hmodules, -⟩ := Except.bind_eq_ok.1 hcheck
    obtain ⟨g, hg⟩ := hdistinct.exists_graph hmodules s.catalog.roots (s.inputs parts.discovery)
      parts.discovery.required s.artifacts parts.traits
    rw [graphOf, hg] at h
    exact nomatch h
  · rintro ⟨m, hm, hcycle⟩
    have hdistinct := hids a ha
    rcases a.checkModules_cases with ⟨-, hnone⟩ | ⟨w, hw, herror⟩
    · exact absurd (hdistinct.onCycle hm hcycle) (hnone m (hdistinct.mem_modules.2 hm))
    · obtain ⟨parts, hparts, rfl⟩ := ha
      refine ⟨w, hdistinct.isWalk hw, ?_⟩
      rw [load_eq, hparts]
      show parts.assembled.check >>= _ = _
      rw [Assembled.check, hroots]
      show (parts.assembled.checkModules >>= _) >>= _ = _
      rw [herror]
      rfl

end Source

/-- A package with one library, which uses the products of other packages that are given. -/
def usingPackages (origin : Origin) (name : String) (uses : List (String × String)) : Manifest :=
  { Manifest.bare origin name with
    modules := [⟨name, .library, none,
      uses.map fun (package, product) => ⟨.product product (some package) KeyedSet.empty, none⟩⟩]
    products := [⟨name, .library, [name]⟩]
    dependencies := uses.map fun (package, _) => .onRegistry package none }

/-- A root that leads into a cycle of two packages, whose modules use the products of each other. -/
def crossing : Source :=
  Source.ofManifests
    [usingPackages (.root ⟨"app"⟩) "App" [("kit", "Kit")],
      usingPackages (.registry "kit") "Kit" [("net", "Net")],
      usingPackages (.registry "net") "Net" [("kit", "Kit")]]

/-- A root with tests, for which a product is added, and a product that is used twice. -/
def sharing : Source :=
  Source.ofManifests
    [{ usingPackages (.root ⟨"app"⟩) "App" [("kit", "Kit"), ("net", "Net")] with
        modules :=
          [⟨"App", .library, none, [⟨.product "Kit" (some "kit") KeyedSet.empty, none⟩,
            ⟨.product "Net" (some "net") KeyedSet.empty, none⟩]⟩,
            ⟨"AppTests", .test, none, [⟨.module "App", none⟩]⟩] },
      usingPackages (.registry "kit") "Kit" [("net", "Net")],
      usingPackages (.registry "net") "Net" []]

/-- What can be computed of assembled packages holds of those that are assembled. -/
theorem Source.of_assembles {s : Source} {p : Assembly.Assembled → Bool}
    (h : (s.assembled.toOption.any fun parts => p parts.assembled) = true) :
    (∃ a, s.Assembles a) ∧ ∀ a, s.Assembles a → p a = true := by
  obtain ⟨parts, hparts, hp⟩ := Except.exists_ok_of_any h
  refine ⟨⟨_, parts, hparts, rfl⟩, ?_⟩
  rintro a ⟨parts', hparts', rfl⟩
  rw [hparts] at hparts'
  exact Except.ok.inj hparts' ▸ hp

/-- A cycle through the products of two packages is reported, and without one a graph is made, a
product of tests included. -/
theorem load_reports_cycles_crossing :
    (∀ a, crossing.Assembles a → a.DistinctNames) ∧
      crossing.load.result ≠ .error .unexpectedCycle ∧
      (∃ a w, crossing.Assembles a ∧ a.IsWalk w ∧
        crossing.load.result = .error (Assembly.Assembled.cycleError w)) ∧
      (∀ a, sharing.Assembles a → a.DistinctNames) ∧
      ∃ a g, sharing.Assembles a ∧
        Graph.ofPackages a.packages [] (a.packages.map (·.identity)) [] KeyedSet.empty
          KeyedSet.empty = .ok g := by
  obtain ⟨⟨a, ha⟩, hcrossing⟩ := Source.of_assembles (s := crossing)
    (p := fun a => decide a.DistinctNames && decide (a.checkRoots = .ok ()) &&
      a.modules.any fun m => a.modules.any fun n => decide (a.DependsOn m n ∧ a.DependsOn n m))
    (by decide +kernel)
  obtain ⟨⟨b, hb⟩, hsharing⟩ := Source.of_assembles (s := sharing)
    (p := fun a => decide a.DistinctNames && decide (a.checkModules = .ok ())) (by decide +kernel)
  simp only [Bool.and_eq_true, List.any_eq_true, decide_eq_true_eq] at hcrossing hsharing
  -- Both sources have distinct names, whatever is assembled from them.
  have hnames : ∀ a, crossing.Assembles a → a.DistinctNames := fun a ha => (hcrossing a ha).1.1
  have hnames' : ∀ a, sharing.Assembles a → a.DistinctNames := fun a ha => (hsharing a ha).1
  obtain ⟨⟨-, hroots⟩, m, hm, n, -, hmn, hnm⟩ := hcrossing a ha
  obtain ⟨hnever, hreports, -⟩ := Source.load_reports_cycles hnames
  obtain ⟨-, -, hmade⟩ := Source.load_reports_cycles hnames'
  obtain ⟨w, hw, hload⟩ := hreports a ha hroots ⟨m, hm, .tail (.single hmn) hnm⟩
  obtain ⟨g, hg⟩ := hmade b hb (hsharing b hb).2 [] (b.packages.map (·.identity)) []
    KeyedSet.empty KeyedSet.empty
  exact ⟨hnames, hnever, ⟨a, w, ha, hw, hload⟩, hnames', b, g, hb, hg⟩

end ModuleGraph
