import ModuleGraph.Proofs.Discovery.Closure

/-!
# What discovery gives in the end

The packages that discovery has met are listed once each, the roots in front, and they are exactly
those with a manifest to which the edges lead from the inputs.  Every edge stands for a declared
dependency, and everything that a package requires for its filter in the end has been noted.

`Traced` is the invariant beside `Sound`: how packages are listed, and where the edges
come from.  It is kept by one declaration (`Declared.traced`), so by every visit.

## Key results

- `Catalog.discover_extra`: all dependencies beside the roots have been entered
- `Catalog.discover_exact`: what discovery gives when it succeeds
-/

namespace ModuleGraph

/-- The manifest of a package declares a dependency on another one. -/
def Catalog.Declares (c : Catalog) (mirrors : Mirrors) (p q : Identity) : Prop :=
  ∃ m, c.manifest? p = some m ∧ ∃ dep ∈ m.dependencies, mirrors.identify dep.origin = q

/-- A root, or a dependency beside the roots that is at hand. -/
def Catalog.IsInput (c : Catalog) (mirrors : Mirrors) (extra : List Dependency) (id : Identity) :
    Prop :=
  id ∈ c.roots ∨ c.has id = true ∧ ∃ dep ∈ extra, mirrors.identify dep.origin = id

/-- Discovery starts from every input. -/
theorem Catalog.IsInput.mem_startsOf {c : Catalog} {mirrors : Mirrors} {extra : List Dependency}
    {id : Identity} (h : c.IsInput mirrors extra id) : id ∈ c.startsOf mirrors extra := by
  rcases h with hroot | ⟨-, dep, hdep, rfl⟩
  · exact List.mem_append_left _ hroot
  · exact List.mem_append_right _ (List.mem_map_of_mem hdep)

namespace Discovery

/-- How packages are listed when they are met, and where the edges between them come from. -/
structure Traced (c : Catalog) (mirrors : Mirrors) (inputs : List Identity) (d : Discovery) : Prop
    extends Sound c inputs d where
  nodup : d.order.Nodup
  rootsFirst : c.roots <+: d.order
  loaded : ∀ id ∈ d.order, c.has id = true
  declared : ∀ p, ∀ q ∈ d.edgesOf p, c.Declares mirrors p q
  extras : ∀ id ∈ d.extra, c.has id = true → id ∈ d.order

/-- A requirement has been noted: the package that is required is at hand, the edge to it is there
and its filter has what is required of it; or it has no manifest and is noted as missing. -/
def Noted (c : Catalog) (d : Discovery) (p q : Identity) (f : ProductFilter) : Prop :=
  (c.has q = true ∧ q ∈ d.order ∧ q ∈ d.edgesOf p ∧
      ∃ f', SortedMap.get? d.filters q = some f' ∧ f.Within f') ∨
    (c.has q = false ∧ q ∈ d.unloadedOf p)

/-- Discovery has met what the inputs need, and nothing else. -/
structure Exact (c : Catalog) (mirrors : Mirrors) (traits : EnabledTraits)
    (extra : List Dependency) (d : Discovery) : Prop where
  nodup : d.order.Nodup
  rootsFirst : c.roots <+: d.order
  mem_order : ∀ id, id ∈ d.order ↔
    c.has id = true ∧ ∃ a, c.IsInput mirrors extra a ∧ d.Leads a id
  declared : ∀ p, ∀ q ∈ d.edgesOf p, c.Declares mirrors p q
  required : ∀ p ∈ d.order, ∃ m, c.manifest? p = some m ∧
    ∀ dep f, (dep, f) ∈ m.requiredDependencies mirrors.identify (d.filterOf p) (traits.of p) →
      Noted c d p (mirrors.identify dep.origin) f

/-! ### One declaration -/

section
variable {c : Catalog} {mirrors : Mirrors} {inputs : List Identity} {parent : Option Identity}
  {id : Identity} {filter : ProductFilter} {d d' : Discovery}

/-- A declaration lists no package twice. -/
theorem Declared.nodup (h : Declared c parent id filter d d') (hd : Traced c mirrors inputs d) :
    d'.order.Nodup := by
  cases h.needed with
  | absent _ _ horder => exact horder ▸ hd.nodup
  | first _ hget _ horder =>
    -- A package that is met for the first time has no filter, so it is not listed.
    have hnew : id ∉ d.order := by
      intro hmem
      have hsome := (hd.entered id).2 hmem
      rw [hget] at hsome
      exact nomatch hsome
    rw [horder]
    exact List.nodup_append.2 ⟨hd.nodup, List.nodup_singleton id, fun p hp q hq heq =>
      hnew (List.mem_singleton.1 hq ▸ heq ▸ hp)⟩
  | again _ _ _ _ horder => exact horder ▸ hd.nodup

/-- A declaration enters no edge twice. -/
theorem Declared.nodup_edges (h : Declared c parent id filter d d')
    (hd : ∀ p, (d.edgesOf p).Nodup) (p : Identity) : (d'.edgesOf p).Nodup := by
  rw [h.edges p]
  split
  · exact nodup_addNew (hd p) id
  · exact hd p

/-- A declaration lists packages at the end, and only packages with a manifest. -/
theorem Declared.listed (h : Declared c parent id filter d d') (hd : Traced c mirrors inputs d) :
    d.order <+: d'.order ∧ ∀ p ∈ d'.order, c.has p = true := by
  cases h.needed with
  | absent _ _ horder =>
    exact ⟨horder ▸ List.prefix_refl _, fun p hp => hd.loaded p (horder ▸ hp)⟩
  -- Only a package with a manifest is listed.
  | first hhas _ _ horder =>
    rw [horder]
    refine ⟨List.prefix_append _ _, fun p hp => ?_⟩
    rcases List.mem_append.1 hp with hp | hp
    · exact hd.loaded p hp
    · exact List.mem_singleton.1 hp ▸ hhas
  | again _ _ _ _ horder =>
    exact ⟨horder ▸ List.prefix_refl _, fun p hp => hd.loaded p (horder ▸ hp)⟩

/-- A declaration keeps what is known of the list and of the edges, if the manifest of the
declaring package has the dependency. -/
theorem Declared.traced (h : Declared c parent id filter d d') (hd : Traced c mirrors inputs d)
    (hparent : ∀ p ∈ parent, p ∈ d.order ∧ c.Declares mirrors p id)
    (hinput : parent = none → id ∈ inputs) : Traced c mirrors inputs d' where
  toSound := by
    refine h.sound hd.toSound (fun p hp => ?_) hinput
    exact ⟨(hparent p hp).1, hd.loaded p (hparent p hp).1⟩
  nodup := h.nodup hd
  rootsFirst := hd.rootsFirst.trans (h.listed hd).1
  loaded := (h.listed hd).2
  declared := by
    intro p q hq
    rw [h.edges p] at hq
    split at hq
    · next hcond =>
      -- The only new edge is that of the dependency itself.
      rcases (mem_addNew _ _ _).1 hq with hq | rfl
      · exact hd.declared p q hq
      · exact (hparent p hcond.1).2
    · exact hd.declared p q hq
  extras := by
    intro p hp hhas
    rw [h.extra] at hp
    exact h.grows.order p (hd.extras p hp hhas)

end

/-! ### All steps -/

section
variable {c : Catalog} {mirrors : Mirrors} {inputs : List Identity} {traits : EnabledTraits}
  {d d' : Discovery}

/-- A visit keeps what is known of the list and of the edges. -/
theorem Traced.visitNext (hd : Traced c mirrors inputs d)
    (h : visitNext c mirrors traits d = .next d') : Traced c mirrors inputs d' := by
  obtain ⟨id, queue, hqueue, hvisit⟩ := visitNext_next h
  have hid : id ∈ d.order := hd.queued id (by simp [hqueue])
  -- Taking the package from the queue concerns nothing else.
  have hstart : Traced c mirrors inputs { d with queue } :=
    { hd with queued := fun p hp => hd.queued p (by simp [hqueue, hp]) }
  rcases hvisit with ⟨-, rfl⟩ | ⟨m, hm, hfold⟩
  · exact hstart
  · refine (Except.foldlM_inv (fun e => Traced c mirrors inputs e ∧ id ∈ e.order)
      (fun entry hentry e e' he hdeclare => ?_) ⟨hstart, hid⟩ hfold).1
    have hdeclared := declare_ok hdeclare
    -- What a manifest requires is declared in it.
    obtain ⟨i, hget, -⟩ := (m.mem_requiredDependencies ..).1 hentry
    have hdep : c.Declares mirrors id (mirrors.identify entry.1.origin) :=
      ⟨m, hm, entry.1, List.mem_of_getElem? hget, rfl⟩
    refine ⟨hdeclared.traced he.1 (fun p hp => ?_) (fun hnone => nomatch hnone),
      hdeclared.grows.order id he.2⟩
    cases hp
    exact ⟨he.2, hdep⟩

/-- Entering an extra dependency keeps what is known of the list and of the edges. -/
theorem Traced.enterExtra {dep : Dependency} (hd : Traced c mirrors inputs d)
    (hid : mirrors.identify dep.origin ∈ inputs) (h : enterExtra c mirrors d dep = .ok d') :
    Traced c mirrors inputs d' := by
  obtain ⟨d₁, hdeclared, rfl⟩ := enterExtra_ok h
  have htraced := hdeclared.traced hd (fun p hp => nomatch hp) fun _ => hid
  refine ⟨⟨htraced.queued, htraced.entered, htraced.reached, htraced.edges⟩, htraced.nodup,
    htraced.rootsFirst, htraced.loaded, htraced.declared, fun id hid hhas => ?_⟩
  rcases (mem_addNew _ _ _).1 hid with hid | rfl
  · exact htraced.extras id hid hhas
  · exact hdeclared.mem_order hd.toSound hhas

/-- Entering roots adds no edges and no extra packages. -/
theorem enterRoots_keeps (c : Catalog) (filter : ProductFilter) (roots : List Identity)
    (d : Discovery) :
    (roots.foldl (enterRoot c filter) d).edges = d.edges ∧
      (roots.foldl (enterRoot c filter) d).extra = d.extra := by
  induction roots generalizing d with
  | nil => exact ⟨rfl, rfl⟩
  | cons id roots ih => exact ih (d.enterRoot c filter id)

/-- When the roots have been entered, they are listed and nothing else is known. -/
theorem traced_enterRoots (hroots : c.ListsRoots) (hinputs : ∀ id ∈ c.roots, id ∈ inputs)
    (filter : ProductFilter) :
    Traced c mirrors inputs (c.roots.foldl (enterRoot c filter) empty) := by
  obtain ⟨-, horder⟩ := enterRoots_fields c filter c.roots empty
  obtain ⟨hedges, hextra⟩ := enterRoots_keeps c filter c.roots empty
  have horder : (c.roots.foldl (enterRoot c filter) empty).order = c.roots := horder
  have hsound : Sound c inputs (c.roots.foldl (enterRoot c filter) empty) :=
    List.foldlRecOn c.roots (enterRoot c filter) (sound_empty c _)
      fun _ he id hid => he.enterRoot (hinputs id hid)
  -- Nothing is declared so far, so there are neither edges nor further dependencies.
  refine ⟨hsound, ?_, ?_, fun id hid => hroots.has id (horder ▸ hid), ?_, ?_⟩
  · rw [horder]
    exact hroots.nodup
  · exact ⟨[], by rw [horder, List.append_nil]⟩
  · intro p q hq
    rw [edgesOf, hedges] at hq
    exact absurd hq List.not_mem_nil
  · intro id hid
    rw [hextra] at hid
    exact absurd hid List.not_mem_nil

/-- A visit enters no extra packages. -/
theorem visitNext_extra (h : visitNext c mirrors traits d = .next d') : d'.extra = d.extra := by
  obtain ⟨id, queue, -, ⟨-, rfl⟩ | ⟨m, -, hfold⟩⟩ := visitNext_next h
  · rfl
  · exact Except.foldlM_inv (fun e => e.extra = d.extra)
      (fun entry _ e e' he hdeclare => (declare_ok hdeclare).extra.trans he) rfl hfold

/-- All extra dependencies of a list are entered. -/
theorem mem_extra_foldlM {deps : List Dependency}
    (h : deps.foldlM (enterExtra c mirrors) d = .ok d') :
    (∀ id ∈ d.extra, id ∈ d'.extra) ∧
      ∀ dep ∈ deps, mirrors.identify dep.origin ∈ d'.extra := by
  refine Except.foldlM_forall (fun e e' : Discovery => ∀ id ∈ e.extra, id ∈ e'.extra)
    (fun (dep : Dependency) e => mirrors.identify dep.origin ∈ e.extra) (fun _ _ hid => hid)
    (fun _ _ _ hkept hkept' id hid => hkept' id (hkept id hid))
    (fun _ _ _ hentered hkept => hkept _ hentered) (fun dep _ _ _ hstep => ?_) h
  obtain ⟨d₀, hdeclared, rfl⟩ := enterExtra_ok hstep
  have hadd := mem_addNew d₀.extra (mirrors.identify dep.origin)
  exact ⟨fun id hid => (hadd id).2 (.inl (hdeclared.extra ▸ hid)), (hadd _).2 (.inr rfl)⟩

end

end Discovery

section
variable {c : Catalog} {mirrors : Mirrors} {traits : EnabledTraits} {extra : List Dependency}
  {filter : ProductFilter} {d : Discovery}

/-- When discovery has ended, all dependencies beside the roots have been entered. -/
theorem Catalog.discover_extra (h : c.discover mirrors traits extra filter = .ok d)
    (dep : Dependency) (hdep : dep ∈ extra) : mirrors.identify dep.origin ∈ d.extra := by
  obtain ⟨entered, hfold, hrun⟩ := Catalog.discover_ok h
  have hentered := (Discovery.mem_extra_foldlM hfold).2 dep hdep
  refine Loop.run_post (fun e => mirrors.identify dep.origin ∈ e.extra)
    (fun r => ∀ e, r = .ok e → mirrors.identify dep.origin ∈ e.extra)
    (fun e e' he hstep => ?_) (fun e r he hstep e' hr => ?_) hentered hrun d rfl
  · rw [Discovery.visitNext_extra hstep]
    exact he
  · subst hr
    obtain ⟨-, rfl⟩ := Discovery.visitNext_ok hstep
    exact he

/-- When discovery has ended, nothing but dependencies beside the roots has been entered so. -/
theorem Catalog.exists_of_discover_extra (h : c.discover mirrors traits extra filter = .ok d)
    {id : Identity} (hid : id ∈ d.extra) : ∃ dep ∈ extra, mirrors.identify dep.origin = id := by
  refine (Catalog.discover_induct h
    (fun e => ∀ id ∈ e.extra, ∃ dep ∈ extra, mirrors.identify dep.origin = id) ?_
    (fun dep hdep e e' he hstep => ?_) (fun e e' he hstep => ?_)).1 id hid
  · rw [(Discovery.enterRoots_keeps c filter c.roots Discovery.empty).2]
    exact fun _ hid => nomatch hid
  · obtain ⟨d₁, hdeclared, rfl⟩ := Discovery.enterExtra_ok hstep
    intro id hid
    rcases (Discovery.mem_addNew _ _ _).1 hid with hid | rfl
    · exact he id (hdeclared.extra ▸ hid)
    · exact ⟨dep, hdep, rfl⟩
  · rw [Discovery.visitNext_extra hstep]
    exact he

/-- When discovery has ended, packages are listed and edges are noted as they are met. -/
theorem Catalog.discover_traced (hroots : c.ListsRoots)
    (h : c.discover mirrors traits extra filter = .ok d) :
    Discovery.Traced c mirrors (c.startsOf mirrors extra) d := by
  have hstart : Discovery.Traced c mirrors (c.startsOf mirrors extra)
      (c.roots.foldl (Discovery.enterRoot c filter) Discovery.empty) :=
    Discovery.traced_enterRoots hroots (fun id hid => List.mem_append_left _ hid) filter
  refine (Catalog.discover_induct h (Discovery.Traced c mirrors (c.startsOf mirrors extra)) hstart
    (fun dep hdep e e' he hstep => he.enterExtra ?_ hstep)
    (fun e e' he hstep => he.visitNext hstep)).1
  exact List.mem_append_right _ (List.mem_map_of_mem hdep)

/-- Discovery enters no edge twice. -/
theorem Catalog.discover_nodup_edges (h : c.discover mirrors traits extra filter = .ok d)
    (p : Identity) : (d.edgesOf p).Nodup := by
  refine (Catalog.discover_induct h (fun e => ∀ p, (e.edgesOf p).Nodup) ?roots ?extra ?visit).1 p
  case roots =>
    intro p
    rw [Discovery.edgesOf, (Discovery.enterRoots_keeps c filter c.roots Discovery.empty).1]
    exact .nil
  case extra =>
    intro dep _ e e' he hstep
    obtain ⟨d₁, hdeclared, rfl⟩ := Discovery.enterExtra_ok hstep
    exact hdeclared.nodup_edges he
  case visit =>
    intro e e' he hstep
    obtain ⟨id, queue, -, ⟨-, rfl⟩ | ⟨m, -, hfold⟩⟩ := Discovery.visitNext_next hstep
    · exact he
    · exact Except.foldlM_inv (fun e => ∀ p, (e.edgesOf p).Nodup)
        (fun entry _ e e' he hdeclare => (Discovery.declare_ok hdeclare).nodup_edges he) he hfold

/-- The edges lead from the packages that have been met to no others. -/
theorem Discovery.Sound.mem_order_of_leads {inputs : List Identity}
    (hd : Discovery.Sound c inputs d) {a id : Identity} (ha : a ∈ d.order) (h : d.Leads a id) :
    id ∈ d.order := by
  cases Relation.ReflTransGen.cases_tail h with
  | inl heq => exact heq ▸ ha
  | inr htail =>
    obtain ⟨p, -, hedge⟩ := htail
    exact (hd.edges p id hedge).2.2

/-- A package that has been met is led to from an input. -/
theorem Discovery.Traced.exists_input
    (hd : Discovery.Traced c mirrors (c.startsOf mirrors extra) d) {id : Identity}
    (hid : id ∈ d.order) : ∃ a, c.IsInput mirrors extra a ∧ d.Leads a id := by
  obtain ⟨a, ha, hlead⟩ := hd.reached id hid
  refine ⟨a, ?_, hlead⟩
  -- The first package on the way is at hand: it has an edge, or it is the package itself.
  have hhas : c.has a = true := by
    rcases Relation.ReflTransGen.cases_head hlead with rfl | ⟨next, hnext, -⟩
    · exact hd.loaded a hid
    · exact (hd.edges a next hnext).1.1
  rcases List.mem_append.1 ha with ha | ha
  · exact .inl ha
  · exact .inr ⟨hhas, List.mem_map.1 ha⟩

/-- What has been met for a requirement is noted. -/
theorem Discovery.Met.noted {inputs : List Identity} (hd : Discovery.Sound c inputs d)
    {p q : Identity} {f : ProductFilter} (h : Discovery.Met c d p q f) :
    Discovery.Noted c d p q f := by
  cases hhas : c.has q with
  | false => exact .inr ⟨hhas, h.unloaded hhas⟩
  | true =>
    obtain ⟨hedge, hfilter⟩ := h.loaded hhas
    exact .inl ⟨hhas, (hd.edges p q hedge).2.2, hedge, hfilter⟩

/-- Discovery from distinct roots that are at hand meets exactly what the inputs need. -/
theorem Catalog.discover_exact (hroots : c.ListsRoots)
    (h : c.discover mirrors traits extra filter = .ok d) :
    Discovery.Exact c mirrors traits extra d := by
  have hd := Catalog.discover_traced hroots h
  refine ⟨hd.nodup, hd.rootsFirst, fun id => ⟨fun hid => ?_, fun ⟨hhas, a, ha, hlead⟩ => ?_⟩,
    hd.declared, fun p hp => ?_⟩
  · exact ⟨hd.loaded id hid, hd.exists_input hid⟩
  · -- Every input has been met, and whatever the edges lead to has been met too.
    have hmem : a ∈ d.order := by
      rcases ha with hroot | ⟨hhasa, dep, hdep, rfl⟩
      · exact hd.rootsFirst.subset hroot
      · exact hd.extras _ (Catalog.discover_extra h dep hdep) hhasa
    exact hd.toSound.mem_order_of_leads hmem hlead
  · obtain ⟨m, hm⟩ := Catalog.has_iff.1 (hd.loaded p hp)
    refine ⟨m, hm, fun dep f hreq => ?_⟩
    exact (Catalog.discover_closed h p hp m hm (dep, f) hreq).noted hd.toSound

end

/-- A package that uses a second product of itself, and of which another package uses a third one,
which needs a package that no other product needs.  The root is depended on, too, and one package
is missing. -/
def regrown : Catalog :=
  Catalog.ofList KeyedSet.empty
    [{ Manifest.bare (.root ⟨"app"⟩) "App" with
        modules := [⟨"App", .library, none,
            [⟨.product "One" (some "kit") KeyedSet.empty, none⟩,
              ⟨.product "Mid" (some "mid") KeyedSet.empty, none⟩,
              ⟨.product "Gone" (some "gone") KeyedSet.empty, none⟩]⟩,
          ⟨"Other", .library, none, [⟨.product "Tool" (some "tool") KeyedSet.empty, none⟩]⟩]
        products := [⟨"App", .library, ["App"]⟩, ⟨"Other", .library, ["Other"]⟩]
        dependencies := [.onRegistry "kit" none, .onRegistry "mid" none, .onRegistry "gone" none,
          .onRegistry "tool" none] },
      { Manifest.bare (.registry "kit") "Kit" with
        modules := [⟨"One", .library, none, [⟨.product "Two" (some "kit") KeyedSet.empty, none⟩]⟩,
          ⟨"Two", .library, none, []⟩,
          ⟨"Three", .library, none, [⟨.product "Zed" (some "zed") KeyedSet.empty, none⟩]⟩]
        products := [⟨"One", .library, ["One"]⟩, ⟨"Two", .library, ["Two"]⟩,
          ⟨"Three", .library, ["Three"]⟩]
        dependencies := [.onRegistry "kit" none, .onRegistry "zed" none] },
      { Manifest.bare (.registry "mid") "Mid" with
        modules := [⟨"Mid", .library, none,
          [⟨.product "Three" (some "kit") KeyedSet.empty, none⟩,
            ⟨.product "Other" (some "app") KeyedSet.empty, none⟩]⟩]
        products := [⟨"Mid", .library, ["Mid"]⟩]
        dependencies := [.onRegistry "kit" none, .onRegistry "app" none] },
      Manifest.bare (.registry "zed") "Zed",
      Manifest.bare (.registry "tool") "Tool",
      Manifest.bare (.registry "side") "Side"]

/-- Packages that are visited again for what is needed of them later, and what is met for them. -/
theorem discover_exact_regrown :
    ∃ d, regrown.ListsRoots ∧
      regrown.discover KeyedSet.empty KeyedSet.empty
        [.onRegistry "side" none, .onRegistry "lost" none]
        (.ofList ["App"]) = .ok d ∧
      d.order.map (·.name) = ["app", "side", "kit", "mid", "zed", "tool"] ∧
      Discovery.Exact regrown KeyedSet.empty KeyedSet.empty
        [.onRegistry "side" none, .onRegistry "lost" none] d := by
  have hroots : regrown.ListsRoots := ⟨by decide +kernel, by decide +kernel⟩
  have hany : ((regrown.discover KeyedSet.empty KeyedSet.empty
      [.onRegistry "side" none, .onRegistry "lost" none] (.ofList ["App"])).toOption.any fun d =>
        d.order.map (·.name) == ["app", "side", "kit", "mid", "zed", "tool"]) = true := by
    decide +kernel
  obtain ⟨d, h, horder⟩ := Except.exists_ok_of_any hany
  exact ⟨d, hroots, h, by simpa using horder, Catalog.discover_exact hroots h⟩

end ModuleGraph
