import ModuleGraph.Proofs.LoadedGraph

/-!
# Discovery finds every package at one place

The first declaration of an identity fixes its place, unless a root has the identity, and so does
the first use of a dependency name.  Every declaration after it is compared with the first one.
What has been entered is never changed, so that any two declarations agree whichever came first, and
however often a package is visited between them.

## Key results

- `located_declare`: a declaration is at the places that are entered for it
- `Located.agree`: two declarations that are at the entered places agree
- `Catalog.discover_located`: everything that is required in the end has been declared
- `Source.load_locations_agree`: no two dependencies that a graph needs contradict each other
-/

namespace ModuleGraph

namespace Discovery

/-- What is entered for identities and names is not changed. -/
structure Keeps (d d' : Discovery) : Prop where
  declarations : ∀ id first, SortedMap.get? d.declarations id = some first →
    SortedMap.get? d'.declarations id = some first
  names : ∀ name place, SortedMap.get? d.names name = some place →
    SortedMap.get? d'.names name = some place

/-- A dependency is at the place that is entered for its identity, unless that is the identity of a
root, and at the place that is entered for its name. -/
structure Located (c : Catalog) (mirrors : Mirrors) (d : Discovery) (dep : Dependency) : Prop where
  identity : c.isRoot (mirrors.identify dep.origin) = false →
    ∃ first, SortedMap.get? d.declarations (mirrors.identify dep.origin) = some first ∧
      first.canonical = dep.origin.canonical
  name : ∀ name, dep.name = some name →
    ∃ location, SortedMap.get? d.names (Text.lowercase name) =
      some (dep.origin.canonical, location)

variable {c : Catalog} {mirrors : Mirrors} {traits : EnabledTraits} {d d' d'' : Discovery}
  {dep : Dependency}

/-! ### What is kept -/

/-- Nothing is changed where nothing happens. -/
theorem Keeps.refl (d : Discovery) : Keeps d d := ⟨fun _ _ h => h, fun _ _ h => h⟩

/-- What two steps do not change is not changed. -/
theorem Keeps.trans (h : Keeps d d') (h' : Keeps d' d'') : Keeps d d'' :=
  ⟨fun id first hget => h'.declarations id first (h.declarations id first hget),
    fun name place hget => h'.names name place (h.names name place hget)⟩

/-- A dependency stays where it is while entries are kept. -/
theorem Located.keeps (h : Located c mirrors d dep) (hkeeps : Keeps d d') :
    Located c mirrors d' dep where
  identity := by
    intro hroot
    obtain ⟨first, hget, hcanonical⟩ := h.identity hroot
    exact ⟨first, hkeeps.declarations _ first hget, hcanonical⟩
  name := by
    intro name hname
    obtain ⟨location, hget⟩ := h.name name hname
    exact ⟨location, hkeeps.names _ _ hget⟩

/-- Two dependencies that are where they have been entered agree: on the place of an identity that
is not that of a root, and on the place of a name. -/
theorem Located.agree {dep' : Dependency} (h : Located c mirrors d dep)
    (h' : Located c mirrors d dep') :
    (mirrors.identify dep.origin = mirrors.identify dep'.origin →
        c.isRoot (mirrors.identify dep.origin) = false →
          dep.origin.canonical = dep'.origin.canonical) ∧
      ∀ name name', dep.name = some name → dep'.name = some name' →
        Text.lowercase name = Text.lowercase name' →
          dep.origin.canonical = dep'.origin.canonical := by
  constructor
  · intro hid hroot
    obtain ⟨first, hget, hcanonical⟩ := h.identity hroot
    obtain ⟨first', hget', hcanonical'⟩ := h'.identity (hid ▸ hroot)
    -- Both are where the first declaration of the identity was.
    rw [hid, hget'] at hget
    have hsame : first' = first := Option.some.inj hget
    rw [← hcanonical, ← hcanonical', hsame]
  · intro name name' hname hname' hlower
    obtain ⟨location, hget⟩ := h.name name hname
    obtain ⟨location', hget'⟩ := h'.name name' hname'
    rw [hlower, hget'] at hget
    exact (congrArg Prod.fst (Option.some.inj hget)).symm

/-! ### One declaration -/

/-- An identity that passes the check is new, or has been entered at this place, unless it is that
of a root. -/
theorem checkIdentity_ok {parent : Option Identity} {id : Identity} {u : Unit}
    (h : checkIdentity c d parent dep id = .ok u) (hroot : c.isRoot id = false) :
    ∀ first, SortedMap.get? d.declarations id = some first →
      first.canonical = dep.origin.canonical := by
  intro first hget
  unfold checkIdentity at h
  rw [hget] at h
  dsimp only at h
  split at h
  · exact nomatch h
  · next hcond => simpa [hroot] using hcond

/-- A name that is entered is at this place, and no other name is changed. -/
theorem enterName_located {parent : Option Identity} (h : d.enterName parent dep = .ok d') :
    Keeps d d' ∧ d'.declarations = d.declarations ∧ ∀ name, dep.name = some name →
      ∃ location, SortedMap.get? d'.names (Text.lowercase name) =
        some (dep.origin.canonical, location) := by
  unfold enterName at h
  cases hname : dep.name with
  | none =>
    rw [hname] at h
    cases h
    exact ⟨.refl d, rfl, fun _ hsome => nomatch hsome⟩
  | some name =>
    rw [hname] at h
    dsimp only at h
    cases hget : SortedMap.get? d.names (Text.lowercase name) with
    | none =>
      rw [hget] at h
      cases h
      refine ⟨⟨fun _ _ hfirst => hfirst, fun _ _ hplace => SortedMap.get?_put_of_new hget hplace⟩,
        rfl, fun name' hname' => ?_⟩
      rw [← Option.some.inj hname']
      exact ⟨dep.origin.location, SortedMap.get?_put_self ..⟩
    | some place =>
      obtain ⟨canonical, location⟩ := place
      rw [hget] at h
      dsimp only at h
      split at h
      · exact nomatch h
      · next hcond =>
        -- The place that is there is compared, and nothing is entered.
        cases h
        have hcanonical : canonical = dep.origin.canonical := by simpa using hcond
        refine ⟨.refl d, rfl, fun name' hname' => ⟨location, ?_⟩⟩
        rw [← Option.some.inj hname', hget, hcanonical]

/-- An identity that has passed the check is at this place when its declaration is entered. -/
theorem enterDeclaration_located (parent : Option Identity) {id : Identity}
    (hcheck : c.isRoot id = false → ∀ first, SortedMap.get? d.declarations id = some first →
      first.canonical = dep.origin.canonical) :
    Keeps d (d.enterDeclaration c parent dep id) ∧ (c.isRoot id = false →
      ∃ first, SortedMap.get? (d.enterDeclaration c parent dep id).declarations id = some first ∧
        first.canonical = dep.origin.canonical) := by
  unfold enterDeclaration
  cases hroot : c.isRoot id with
  -- Roots are not checked, and their declarations are not entered.
  | true => exact ⟨.refl d, fun hno => nomatch hno⟩
  | false =>
    rw [if_neg (by simp)]
    dsimp only
    cases hget : SortedMap.get? d.declarations id with
    -- Declared before: by `hcheck`, from the same place.
    | some first =>
      have hhas : d.declarations.contains id = true := by
        rw [SortedMap.contains_eq_isSome, hget]
        rfl
      rw [if_pos hhas]
      exact ⟨⟨fun _ _ hfirst => hfirst, fun _ _ hplace => hplace⟩,
        fun _ => ⟨first, hget, hcheck hroot first hget⟩⟩
    -- Declared for the first time.
    | none =>
      have hnot : ¬ d.declarations.contains id = true := by
        rw [SortedMap.contains_eq_isSome, hget]
        exact Bool.false_ne_true
      rw [if_neg hnot]
      exact ⟨⟨fun _ _ hfirst => SortedMap.get?_put_of_new hget hfirst, fun _ _ hplace => hplace⟩,
        fun _ => ⟨_, SortedMap.get?_put_self .., rfl⟩⟩

/-- Edges and needs concern no identities, no names and no package that is listed. -/
theorem enterEdge_need_entries (c : Catalog) (d : Discovery) (parent : Option Identity)
    (id : Identity) (filter : ProductFilter) :
    ((d.enterEdge c parent id).need c parent id filter).declarations = d.declarations ∧
      ((d.enterEdge c parent id).need c parent id filter).names = d.names ∧
      ((d.enterEdge c parent id).need c parent id filter).required = d.required := by
  obtain ⟨edges, unloaded, hentered, -⟩ := enterEdge_fields c d parent id
  obtain ⟨filters, order, parents, queue, hneed⟩ :=
    need_fields c { d with edges, unloaded } parent id filter
  rw [hentered, hneed]
  exact ⟨rfl, rfl, rfl⟩

/-- A declaration that succeeds is where it has been entered, and changes nothing that has been
entered before. -/
theorem located_declare {parent : Option Identity} {entry : Dependency × ProductFilter}
    (h : declare c mirrors parent d entry = .ok d') :
    Keeps d d' ∧ Located c mirrors d' entry.1 := by
  obtain ⟨dep, filter⟩ := entry
  unfold declare at h
  obtain ⟨_, hcheck, h⟩ := Except.bind_eq_ok.1 h
  obtain ⟨d₁, hname, h⟩ := Except.bind_eq_ok.1 h
  cases h
  obtain ⟨hkeeps, hdeclarations, hnamed⟩ := enterName_located hname
  -- Entering the name has changed none of the declarations that were checked.
  have hfirst : c.isRoot (mirrors.identify dep.origin) = false → ∀ first,
      SortedMap.get? d₁.declarations (mirrors.identify dep.origin) = some first →
        first.canonical = dep.origin.canonical := by
    intro hroot first hget
    rw [hdeclarations] at hget
    exact checkIdentity_ok hcheck hroot first hget
  obtain ⟨hkeeps', hidentity⟩ := enterDeclaration_located parent hfirst
  obtain ⟨hdecls, hnames, -⟩ := enterEdge_need_entries c
    (d₁.enterDeclaration c parent dep (mirrors.identify dep.origin)) parent
    (mirrors.identify dep.origin) filter
  have hlast : Keeps (d₁.enterDeclaration c parent dep (mirrors.identify dep.origin))
      (((d₁.enterDeclaration c parent dep (mirrors.identify dep.origin)).enterEdge c parent
        (mirrors.identify dep.origin)).need c parent (mirrors.identify dep.origin) filter) :=
    ⟨fun _ _ hget => hdecls ▸ hget, fun _ _ hget => hnames ▸ hget⟩
  refine ⟨hkeeps.trans (hkeeps'.trans hlast), fun hroot => ?_, fun name hsome => ?_⟩
  · obtain ⟨first, hget, hcanonical⟩ := hidentity hroot
    exact ⟨first, hlast.declarations _ first hget, hcanonical⟩
  · obtain ⟨location, hget⟩ := hnamed name hsome
    exact ⟨location, (hkeeps'.trans hlast).names _ _ hget⟩

/-! ### All steps -/

/-- The declarations of a visit are where they have been entered. -/
theorem located_foldlM {p : Identity} {entries : List (Dependency × ProductFilter)}
    (h : entries.foldlM (Discovery.declare c mirrors (some p)) d = .ok d') :
    Keeps d d' ∧ ∀ entry ∈ entries, Located c mirrors d' entry.1 :=
  Except.foldlM_forall Keeps
    (fun (entry : Dependency × ProductFilter) e => Located c mirrors e entry.1) .refl
    (fun _ _ _ hkeeps hkeeps' => hkeeps.trans hkeeps')
    (fun _ _ _ hlocated hkeeps => hlocated.keeps hkeeps)
    (fun _ _ _ _ hdeclare => located_declare hdeclare) h

/-- An extra dependency is where it has been entered. -/
theorem located_enterExtra (h : enterExtra c mirrors d dep = .ok d') :
    Keeps d d' ∧ Located c mirrors d' dep := by
  unfold enterExtra at h
  obtain ⟨d₁, hdeclare, h⟩ := Except.bind_eq_ok.1 h
  cases h
  obtain ⟨hkeeps, hlocated⟩ := located_declare hdeclare
  exact ⟨⟨hkeeps.declarations, hkeeps.names⟩, hlocated.identity, hlocated.name⟩

/-- Visits change nothing that has been entered. -/
theorem Proceeds.keeps (h : Proceeds c mirrors traits d d') : Keeps d d' := by
  induction h with
  | refl => exact .refl d
  | tail _ hstep ih =>
    obtain ⟨id, queue, -, hfold⟩ := visitNext_folds hstep
    -- Taking a package from the queue concerns nothing else.
    obtain ⟨hdeclarations, hnames⟩ := (located_foldlM hfold).1
    exact ih.trans ⟨hdeclarations, hnames⟩

/-- What a package required when it was visited is where it has been entered. -/
theorem Visited.located {start : Discovery} {p : Identity} {f : ProductFilter}
    (h : Visited c mirrors traits start d p f) :
    ∀ entry ∈ c.requirements mirrors traits p f, Located c mirrors d entry.1 := by
  obtain ⟨before, after, hvisit⟩ := h
  have hfold := hvisit.folds
  intro entry hentry
  have hlocated := (located_foldlM hfold).2 entry hentry
  exact hlocated.keeps hvisit.goesOn.keeps

end Discovery

/-- When discovery has ended, all extra dependencies and everything that a package requires for the
filter that it has in the end are where they have been entered. -/
theorem Catalog.discover_located {c : Catalog} {mirrors : Mirrors} {traits : EnabledTraits}
    {extra : List Dependency} {filter : ProductFilter} {d : Discovery}
    (h : c.discover mirrors traits extra filter = .ok d) :
    (∀ dep ∈ extra, Discovery.Located c mirrors d dep) ∧
      ∀ p ∈ d.order, ∀ entry ∈ c.requirements mirrors traits p (d.filterOf p),
        Discovery.Located c mirrors d entry.1 := by
  constructor
  · obtain ⟨start, hstart, hproceeds, -⟩ := Catalog.discover_proceeds h
    -- Extra dependencies are entered before the visits, which keep what they have entered.
    have hentered := Except.foldlM_forall Discovery.Keeps
      (fun dep e => Discovery.Located c mirrors e dep) .refl
      (fun _ _ _ hkeeps hkeeps' => hkeeps.trans hkeeps')
      (fun _ _ _ hlocated hkeeps => hlocated.keeps hkeeps)
      (fun _ _ _ _ hstep => Discovery.located_enterExtra hstep) hstart
    exact fun dep hdep => (hentered.2 dep hdep).keeps hproceeds.keeps
  · intro p hp
    -- A package has been visited for the filter that it has in the end.
    obtain ⟨start, -, hvisited⟩ := Catalog.discover_lastVisit h hp
    exact hvisited.located

namespace Source

/-- A dependency beside the roots, or one that a package of the graph requires for the traits and
the filter that it has in the end. -/
def Needs (s : Source) (g : Graph) (dep : Dependency) : Prop :=
  dep ∈ s.rootDependencies ∨ ∃ p ∈ g.packages.toList, ∃ f,
    (dep, f) ∈ p.manifest.requiredDependencies s.mirrors.identify p.filter p.enabledTraits

/-- Two dependencies are at one place if they mean one package that is no root, or if they have one
name but for letter case. -/
structure Agree (s : Source) (g : Graph) (dep dep' : Dependency) : Prop where
  identity : s.mirrors.identify dep.origin = s.mirrors.identify dep'.origin →
    (∀ root ∈ g.rootPackages.toList, root.identity ≠ s.mirrors.identify dep.origin) →
      dep.origin.canonical = dep'.origin.canonical
  name : ∀ name name', dep.name = some name → dep'.name = some name' →
    Text.lowercase name = Text.lowercase name' → dep.origin.canonical = dep'.origin.canonical

/-- What a graph needs is where discovery has entered it. -/
theorem BuiltFrom.located {s : Source} {g : Graph} {parts : Parts} (h : s.BuiltFrom g parts)
    {dep : Dependency} (hneeds : s.Needs g dep) :
    Discovery.Located s.catalog s.mirrors parts.discovery dep := by
  obtain ⟨w, hmade, heq⟩ := h.exists_madeFrom
  obtain ⟨hextra, hrequired⟩ := Catalog.discover_located hmade.discovery
  rcases hneeds with hdep | ⟨p, hp, f, hreq⟩
  · exact hextra dep hdep
  · obtain ⟨hid, hm, hpackage⟩ := hmade.isPackage hp
    refine hrequired p.identity hid (dep, f) ?_
    have hfilter : p.filter = parts.discovery.filterOf p.identity := hpackage.filter
    have htraits : p.enabledTraits = w.enabled.of p.identity := hpackage.enabledTraits
    rw [Catalog.requirements, hm, ← hfilter, ← htraits]
    exact hreq

/-- In a loaded graph, no two of the dependencies that are needed contradict each other about the
place of a package or of a name. -/
theorem load_locations_agree {s : Source} {g : Graph} (h : s.load.result = .ok g) :
    ∀ dep dep', s.Needs g dep → s.Needs g dep' → s.Agree g dep dep' := by
  obtain ⟨parts, hbuilt⟩ := exists_builtFrom h
  intro dep dep' hneeds hneeds'
  obtain ⟨hidentity, hname⟩ := (hbuilt.located hneeds).agree (hbuilt.located hneeds')
  refine ⟨fun hsame hroots => hidentity hsame ?_, hname⟩
  cases hroot : s.catalog.isRoot (s.mirrors.identify dep.origin) with
  | false => rfl
  | true =>
    obtain ⟨p, hp, hid⟩ := hbuilt.exists_rootPackage hroot
    exact absurd hid (hroots p hp)

end Source

/-- Two packages that depend on a third one, each writing its directory and its name in another
way. -/
def spelledTwice : Source :=
  Source.ofManifests
    [{ usingPackages (.root ⟨"/app"⟩) "App" [("kit", "Kit"), ("net", "Net")] with
        dependencies := [⟨.directory ⟨"/pkgs/kit"⟩, some "kit", none⟩, .onRegistry "net" none] },
      { usingPackages (.registry "net") "Net" [("kit", "Kit")] with
        dependencies := [⟨.directory ⟨"/pkgs/Kit/"⟩, some "KIT", none⟩] },
      usingPackages (.directory ⟨"/pkgs/kit"⟩) "Kit" []]

/-- Directories that are written in two ways are one place. -/
theorem load_locations_agree_spelledTwice :
    ∃ g dep dep', spelledTwice.load.result = .ok g ∧ spelledTwice.Needs g dep ∧
      spelledTwice.Needs g dep' ∧ dep.origin ≠ dep'.origin ∧ dep.name ≠ dep'.name ∧
      (∀ root ∈ g.rootPackages.toList,
        root.identity ≠ spelledTwice.mirrors.identify dep.origin) ∧
      dep.origin.canonical = dep'.origin.canonical := by
  have hany : (spelledTwice.load.result.toOption.any fun g => decide (
      (∃ p ∈ g.packages.toList, (⟨.directory ⟨"/pkgs/kit"⟩, some "kit", none⟩, .everything) ∈
        p.manifest.requiredDependencies spelledTwice.mirrors.identify p.filter p.enabledTraits) ∧
      (∃ p ∈ g.packages.toList, (⟨.directory ⟨"/pkgs/Kit/"⟩, some "KIT", none⟩, .everything) ∈
        p.manifest.requiredDependencies spelledTwice.mirrors.identify p.filter p.enabledTraits) ∧
      ∀ root ∈ g.rootPackages.toList,
        root.identity ≠ spelledTwice.mirrors.identify (.directory ⟨"/pkgs/kit"⟩))) = true := by
    decide +kernel
  obtain ⟨g, h, hg⟩ := Except.exists_ok_of_any hany
  obtain ⟨⟨p, hp, hreq⟩, ⟨p', hp', hreq'⟩, hroots⟩ := of_decide_eq_true hg
  have hagree := Source.load_locations_agree h _ _ (.inr ⟨p, hp, _, hreq⟩)
    (.inr ⟨p', hp', _, hreq'⟩)
  refine ⟨g, _, _, h, .inr ⟨p, hp, _, hreq⟩, .inr ⟨p', hp', _, hreq'⟩, by decide, by decide,
    hroots, ?_⟩
  exact hagree.identity (by decide +kernel) hroots

end ModuleGraph
