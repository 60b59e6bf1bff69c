import ModuleGraph.Proofs.Conflicts
import ModuleGraph.Proofs.Discovery.Lineage

/-!
# The chains of a conflict

An identity that is declared at two places is reported with the chains of packages that led to both
declarations.  The first declaration has been entered with the package that it is in, which had been
met by then; the second one is in the package that is visited.  So both chains begin with an input,
each package in them declares the next one, and they end with the two declarations.

Dependencies beside the roots have no package to climb from, and they are entered before all others.
Where one of them has the identity it is the first declaration, so chains are missing exactly then.

## Key results

- `Discovery.Attributed`: what the first declarations come from
- `Discovery.identityConflict_of_declare`: what a conflict says of the declarations
- `Source.load_conflict_chains`: the chains of a load that fails lead to the two declarations
-/

namespace ModuleGraph

/-- A chain from an input to the package of a dependency, through packages that declare each other
to one that declares the dependency. -/
structure Catalog.Introduces (c : Catalog) (mirrors : Mirrors) (extra : List Dependency)
    (chain : List Identity) (dep : Dependency) : Prop where
  input : ∃ a, chain.head? = some a ∧ c.IsInput mirrors extra a
  declares : chain.IsChain (c.Declares mirrors)
  last : ∃ front p, chain = front ++ [p, mirrors.identify dep.origin] ∧
    c.HasDependency extra (some p) dep

namespace Discovery

variable {c : Catalog} {mirrors : Mirrors} {extra todo : List Dependency}
  {filter f : ProductFilter} {visiting parent : Option Identity} {id : Identity}
  {dep : Dependency} {d d' : Discovery}

/-! ### First declarations -/

/-- The first declaration of an identity is that of a dependency, in the package with which it has
been entered.  Extra dependencies come first, so if it is in a package, no extra dependency has the
identity. -/
structure Attributed (c : Catalog) (mirrors : Mirrors) (extra todo : List Dependency)
    (d : Discovery) : Prop where
  source : ∀ id first, SortedMap.get? d.declarations id = some first → c.isRoot id = false →
    ∃ dep, c.HasDependency extra first.declaredBy dep ∧ mirrors.identify dep.origin = id ∧
      first.canonical = dep.origin.canonical ∧ first.location = dep.origin.location
  package : ∀ id first p, SortedMap.get? d.declarations id = some first → c.isRoot id = false →
    first.declaredBy = some p → p ∈ d.order ∧ ∀ dep ∈ extra, mirrors.identify dep.origin ≠ id
  entered : ∀ dep ∈ extra, dep ∈ todo ∨ c.isRoot (mirrors.identify dep.origin) = true ∨
    ∃ first, SortedMap.get? d.declarations (mirrors.identify dep.origin) = some first

/-- What becomes of the declarations when a dependency is declared. -/
theorem declarations_declare (h : declare c mirrors parent d (dep, f) = .ok d') :
    d'.declarations = d.declarations ∨
      SortedMap.get? d.declarations (mirrors.identify dep.origin) = none ∧
        d'.declarations = SortedMap.put d.declarations (mirrors.identify dep.origin)
          ⟨dep.origin.canonical, dep.origin.location, parent⟩ := by
  unfold declare at h
  obtain ⟨_, -, h⟩ := Except.bind_eq_ok.1 h
  obtain ⟨d₁, hname, h⟩ := Except.bind_eq_ok.1 h
  cases h
  obtain ⟨names, rfl⟩ := enterName_ok hname
  -- Of the parts of `declare` only one touches the declarations.
  rw [(enterEdge_need_entries ..).1, enterDeclaration]
  cases hroot : c.isRoot (mirrors.identify dep.origin) with
  -- Those of roots are not entered.
  | true => exact .inl rfl
  | false =>
    rw [if_neg Bool.false_ne_true]
    dsimp only
    by_cases hhas : d.declarations.contains (mirrors.identify dep.origin) = true
    · rw [if_pos hhas]
      exact .inl rfl
    · rw [if_neg hhas]
      rw [SortedMap.contains_eq_isSome] at hhas
      exact .inr ⟨by simpa using hhas, rfl⟩

/-- A declaration is attributed to the package that it is in. -/
theorem Attributed.declare (hd : Attributed c mirrors extra todo d)
    (hparent : ∀ p ∈ parent, p ∈ d.order ∧ todo = []) (hdep : c.HasDependency extra parent dep)
    (h : declare c mirrors parent d (dep, f) = .ok d') :
    Attributed c mirrors extra todo d' := by
  have hgrows := (declare_ok h).grows.order
  have hkeeps := (located_declare h).1.declarations
  have hentered : ∀ dep' ∈ extra, dep' ∈ todo ∨ c.isRoot (mirrors.identify dep'.origin) = true ∨
      ∃ first, SortedMap.get? d'.declarations (mirrors.identify dep'.origin) = some first := by
    intro dep' hdep'
    rcases hd.entered dep' hdep' with htodo | hroot | ⟨first, hget⟩
    · exact .inl htodo
    · exact .inr (.inl hroot)
    · exact .inr (.inr ⟨first, hkeeps _ first hget⟩)
  rcases declarations_declare h with hsame | ⟨hnew, hput⟩
  · refine ⟨hsame ▸ hd.source, fun id first p hget hroot hby => ?_, hentered⟩
    obtain ⟨hp, hnone⟩ := hd.package id first p (hsame ▸ hget) hroot hby
    exact ⟨hgrows p hp, hnone⟩
  · refine ⟨fun id first hget hroot => ?_, fun id first p hget hroot hby => ?_, hentered⟩
    · rcases SortedMap.get?_put_eq_some.1 (hput ▸ hget) with ⟨rfl, rfl⟩ | ⟨-, hget⟩
      · exact ⟨dep, hdep, rfl, rfl, rfl⟩
      · exact hd.source id first hget hroot
    · rcases SortedMap.get?_put_eq_some.1 (hput ▸ hget) with ⟨rfl, rfl⟩ | ⟨-, hget⟩
      · obtain ⟨hp, rfl⟩ := hparent p hby
        refine ⟨hgrows p hp, fun dep' hdep' hid => ?_⟩
        -- All extra dependencies have been entered, so the identity would not be new.
        rcases hd.entered dep' hdep' with htodo | hroot' | ⟨first, hget⟩
        · exact nomatch htodo
        · rw [hid, hroot] at hroot'
          exact nomatch hroot'
        · rw [hid, hnew] at hget
          exact nomatch hget
      · obtain ⟨hp, hnone⟩ := hd.package id first p hget hroot hby
        exact ⟨hgrows p hp, hnone⟩

/-- Nothing has been entered for identities that are not those of roots when the roots have been
entered. -/
theorem get?_enterRoots (c : Catalog) (filter : ProductFilter) (hroot : c.isRoot id = false) :
    SortedMap.get? (c.roots.foldl (enterRoot c filter) empty).declarations id = none := by
  refine List.foldlRecOn c.roots (enterRoot c filter)
    (motive := fun d : Discovery => SortedMap.get? d.declarations id = none) rfl
    fun d hd root hmem => ?_
  -- Only roots are entered, and `id` is none.
  have hne : id ≠ root := by
    rintro rfl
    simp [Catalog.isRoot, hmem] at hroot
  unfold enterRoot
  dsimp only
  split
  · rw [SortedMap.get?_put_of_ne _ _ hne]
    exact hd
  · exact hd

/-- The first declarations are attributed to the packages that they are in. -/
theorem Passes.attributed (hroots : c.ListsRoots)
    (h : Passes c mirrors extra filter todo visiting d) : Attributed c mirrors extra todo d := by
  induction h with
  | roots =>
    refine ⟨fun id first hget hroot => ?_, fun id first p hget hroot => ?_, fun _ => .inl⟩
    · rw [get?_enterRoots c filter hroot] at hget
      exact nomatch hget
    · rw [get?_enterRoots c filter hroot] at hget
      exact nomatch hget
  | @extra dep todo d _ h hstep ih =>
    have hdep : c.HasDependency extra none dep := h.todo_suffix.subset List.mem_cons_self
    have hnone : ∀ p ∈ (none : Option Identity), p ∈ d.order ∧ dep :: todo = [] :=
      fun p hp => nomatch hp
    have hlocated := (located_enterExtra hstep).2
    unfold enterExtra at hstep
    obtain ⟨d₁, hdeclare, hpure⟩ := Except.bind_eq_ok.1 hstep
    cases hpure
    obtain ⟨hsource, hpackage, hentered⟩ := ih.declare hnone hdep hdeclare
    refine ⟨hsource, hpackage, fun dep' hdep' => ?_⟩
    rcases hentered dep' hdep' with htodo | hknown
    · rcases List.mem_cons.1 htodo with rfl | htodo
      · -- The dependency that has just been entered need not be entered any more.
        cases hroot : c.isRoot (mirrors.identify dep'.origin) with
        | true => exact .inr (.inl rfl)
        | false =>
          obtain ⟨first, hget, -⟩ := hlocated.identity hroot
          exact .inr (.inr ⟨first, hget⟩)
      · exact .inl htodo
    · exact .inr hknown
  | visit _ _ ih => exact ⟨ih.source, ih.package, ih.entered⟩
  | declared h hdep hstep ih =>
    obtain ⟨-, hvisited⟩ := h.traced hroots
    exact ih.declare (fun p hp => ⟨hvisited p hp, rfl⟩) hdep hstep

/-! ### The conflict -/

/-- A declaration is refused for its identity because of the first declaration, at another place. -/
theorem identityConflict_of_declare {package location other : String}
    {chains : Option (List String × List String)}
    (h : declare c mirrors parent d (dep, f) =
      .error (.identityConflict package location other id chains)) :
    mirrors.identify dep.origin = id ∧ c.isRoot id = false ∧ package = parentLabel parent ∧
      location = dep.origin.location ∧
      ∃ first, SortedMap.get? d.declarations id = some first ∧
        first.canonical ≠ dep.origin.canonical ∧ other = first.location ∧
        chains = d.conflictChains first.declaredBy parent id := by
  unfold declare at h
  rcases Except.bind_eq_error.1 h with h | ⟨_, -, h⟩
  · unfold checkIdentity at h
    split at h
    · exact nomatch h
    · next first hget =>
      split at h
      · next hcond =>
        cases h
        obtain ⟨hplace, hroot⟩ : first.canonical ≠ dep.origin.canonical ∧
            c.isRoot (mirrors.identify dep.origin) = false := by
          simpa using hcond
        exact ⟨rfl, hroot, rfl, rfl, first, hget, hplace, rfl, rfl⟩
      · exact nomatch h
  · -- A name that cannot be entered gives another error.
    rcases Except.bind_eq_error.1 h with h | ⟨_, -, h⟩
    · unfold enterName at h
      split at h
      · exact nomatch h
      · dsimp only at h
        split at h
        · exact nomatch h
        · split at h
          · exact nomatch h
          · exact nomatch h
    · exact nomatch h

/-- Chains are missing if one of the declarations is in no package. -/
theorem conflictChains_eq_none {first second : Option Identity} :
    d.conflictChains first second id = none ↔ first = none ∨ second = none := by
  cases first <;> cases second <;> simp [conflictChains]

/-- The chains that are there go through the packages of both declarations. -/
theorem conflictChains_eq_some {first second : Option Identity} {names names' : List String} :
    d.conflictChains first second id = some (names, names') ↔
      ∃ p q, first = some p ∧ second = some q ∧
        d.chainThrough p id = names ∧ d.chainThrough q id = names' := by
  cases first <;> cases second <;> simp [conflictChains]

/-- The chain through a package that has been met leads to a dependency of the package. -/
theorem Lineage.introduces (hd : Lineage c mirrors extra d) {p : Identity} (hp : p ∈ d.order)
    (hdep : c.HasDependency extra (some p) dep) :
    c.Introduces mirrors extra (d.chainTo p ++ [mirrors.identify dep.origin]) dep := by
  obtain ⟨⟨a, hhead, hinput⟩, hdeclares, hlast⟩ := hd.chainTo_descends hp
  obtain ⟨front, hfront⟩ := List.getLast?_eq_some_iff.1 hlast
  refine ⟨⟨a, ?_, hinput⟩, ?_, front, p, by simp [hfront], hdep⟩
  · rw [List.head?_append, hhead]
    rfl
  · refine List.isChain_append.2 ⟨hdeclares, List.isChain_singleton _, fun q hq q' hq' => ?_⟩
    obtain rfl : p = q := by simpa [hlast] using hq
    obtain rfl : mirrors.identify dep.origin = q' := by simpa using hq'
    obtain ⟨m, hm, hmem⟩ := hdep
    exact ⟨m, hm, dep, hmem, rfl⟩

end Discovery

/-- If a load fails because an identity is declared at two places, there are two declared
dependencies of this identity, the first one at the other location and the second one at the
reported location, and these are different places.  Chains are missing exactly if one of the two is
declared beside the roots, which is the case whenever any dependency beside the roots has the
identity.  The chains that are there begin with an input, each package in them declares the next
one, and they end with the two declarations. -/
theorem Source.load_conflict_chains {s : Source} {package location other : String} {id : Identity}
    {chains : Option (List String × List String)}
    (h : s.load.result =
      .error (.package (.identityConflict package location other id chains))) :
    ∃ parent dep parent' dep',
      s.catalog.HasDependency s.rootDependencies parent dep ∧
      s.catalog.HasDependency s.rootDependencies parent' dep' ∧
      s.mirrors.identify dep.origin = id ∧ s.mirrors.identify dep'.origin = id ∧
      s.catalog.isRoot id = false ∧ package = Discovery.parentLabel parent' ∧
      other = dep.origin.location ∧ location = dep'.origin.location ∧
      Location.canonical location ≠ Location.canonical other ∧
      (chains = none ↔ parent = none ∨ parent' = none) ∧
      (chains = none ↔ ∃ root ∈ s.rootDependencies, s.mirrors.identify root.origin = id) ∧
      ∀ names names', chains = some (names, names') → ∃ chain chain',
        names = chain.map (·.name) ∧ names' = chain'.map (·.name) ∧
        s.catalog.Introduces s.mirrors s.rootDependencies chain dep ∧
        s.catalog.Introduces s.mirrors s.rootDependencies chain' dep' := by
  obtain ⟨traits, hdiscover⟩ := Source.discover_of_conflict h trivial
  obtain ⟨todo, parent', d, dep', f, hpasses, hnext, hrefused⟩ :=
    Catalog.exists_refusal hdiscover
  have hroots := Catalog.listsRoots_ofList s.mirrors s.manifests
  have hdep' := hpasses.hasDependency hnext
  obtain ⟨hid', hroot, hpackage, hlocation, first, hget, hplace, hother, hchains⟩ :=
    Discovery.identityConflict_of_declare hrefused
  have hattributed := hpasses.attributed hroots
  obtain ⟨dep, hdep, hid, hcanonical, hwritten⟩ := hattributed.source id first hget hroot
  refine ⟨first.declaredBy, dep, parent', dep', hdep, hdep', hid, hid', hroot, hpackage,
    hother.trans hwritten, hlocation, ?_, hchains ▸ Discovery.conflictChains_eq_none, ?_,
    fun names names' hsome => ?_⟩
  · -- Places are compared in the canonical form of what is written.
    rw [hlocation, hother, hwritten]
    rw [hcanonical] at hplace
    exact hplace.symm
  · rw [hchains, Discovery.conflictChains_eq_none]
    refine ⟨fun hnone => ?_, fun ⟨root, hmem, hsame⟩ => .inl ?_⟩
    · rcases hnone with hnone | rfl
      · rw [hnone] at hdep
        exact ⟨dep, hdep, hid⟩
      · exact ⟨dep', hdep', hid'⟩
    · -- A first declaration in a package would be of an identity that no extra dependency has.
      cases hby : first.declaredBy with
      | none => rfl
      | some p => exact absurd hsame ((hattributed.package id first p hget hroot hby).2 root hmem)
  · rw [hchains] at hsome
    obtain ⟨p, q, hby, rfl, rfl, rfl⟩ := Discovery.conflictChains_eq_some.1 hsome
    rw [hby] at hdep
    -- Both packages have been met, so each of them has a chain.
    have hlineage := hpasses.lineage hroots
    have hchain :=
      hlineage.introduces (hattributed.package id first p hget hroot hby).1 hdep
    have hchain' := hlineage.introduces ((hpasses.traced hroots).2 q rfl) hdep'
    rw [hid] at hchain
    rw [hid'] at hchain'
    exact ⟨_, _, rfl, rfl, hchain, hchain'⟩

/-- A root that leads into a cycle of two packages.  Both depend on a third one, at two places. -/
def cycleToLog : Source :=
  Source.ofManifests
    [usingPackages (.root ⟨"app"⟩) "App" [("net", "Net")],
      { usingPackages (.registry "net") "Net" [("kit", "Kit"), ("log", "Log")] with
        dependencies := [.onRegistry "kit" none, ⟨.directory ⟨"/a/log"⟩, none, none⟩] },
      { usingPackages (.registry "kit") "Kit" [("net", "Net"), ("log", "Log")] with
        dependencies := [.onRegistry "net" none, ⟨.directory ⟨"/b/log"⟩, none, none⟩] }]

/-- One chain goes through both packages of the cycle, the other one through the first of them. -/
theorem load_conflict_chains_cycleToLog :
    cycleToLog.load.result = .error (.package (.identityConflict "kit" "/b/log" "/a/log" ⟨"log"⟩
        (some (["app", "net", "log"], ["app", "net", "kit", "log"])))) ∧
      ∃ dep dep' chain chain', dep.origin.location = "/a/log" ∧ dep'.origin.location = "/b/log" ∧
        chain.map (·.name) = ["app", "net", "log"] ∧
        chain'.map (·.name) = ["app", "net", "kit", "log"] ∧
        cycleToLog.catalog.Introduces cycleToLog.mirrors [] chain dep ∧
        cycleToLog.catalog.Introduces cycleToLog.mirrors [] chain' dep' := by
  have hfails : cycleToLog.load.result.map (fun _ => ()) =
      .error (.package (.identityConflict "kit" "/b/log" "/a/log" ⟨"log"⟩
        (some (["app", "net", "log"], ["app", "net", "kit", "log"])))) := by
    decide +kernel
  have herror := Except.map_eq_error.1 hfails
  obtain ⟨-, dep, -, dep', -, -, -, -, -, -, hother, hlocation, -, -, -, hchains⟩ :=
    Source.load_conflict_chains herror
  obtain ⟨chain, chain', hnames, hnames', hfirst, hsecond⟩ := hchains _ _ rfl
  exact ⟨herror, dep, dep', chain, chain', hother.symm, hlocation.symm, hnames.symm,
    hnames'.symm, hfirst, hsecond⟩

end ModuleGraph
