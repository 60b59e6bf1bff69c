import ModuleGraph.Proofs.Traits.Enabled
import ModuleGraph.Proofs.Traits.Resolution
import ModuleGraph.Proofs.Discovery.Reach

/-!
# Which packages trait resolution reaches

Trait resolution enters the dependencies of a package once, when it expands the package, with the
traits that the package has at that moment.  All of these are asked, and every package that is asked
has an entry among the enabled traits in the end.  A request that comes later changes the traits of
a package, but not the dependencies that have been entered for it.

## Key results

- `TraitsRun.expanded_of_enabled`: a package with an entry has been expanded
- `TraitsRun.asked_of_expanded`: what is followed at the time of expansion is asked
- `TraitsRun.enabled_of_asked`, `TraitsRun.enabled_of_start`: which packages have an entry
- `TraitsRun.filter_of_expanded`: the filter for which a package has been expanded
- `TraitsRun.keptOrAsked`: the traits of a package are those of its expansion, or a request for it
  has come after that
-/

namespace ModuleGraph

/-- The dependencies that trait resolution follows for a filter and some traits. -/
def Manifest.followed (m : Manifest) (identify : Origin → Identity) (filter : ProductFilter)
    (traits : Names) : List Dependency :=
  (m.requiredDependencies identify filter traits).map (·.1) ++ m.guardedDependencies identify traits

namespace TraitWalk

/-! ### Everything that is pending is asked -/

/-- Of edges to the same package the first one stays. -/
theorem exists_mem_firstEdges (seen : List Identity) (edges : List TraitEdge) (edge : TraitEdge)
    (h : edge ∈ edges) (hseen : edge.1 ∉ seen) :
    ∃ request, (edge.1, request) ∈ firstEdges seen edges := by
  induction edges generalizing seen with
  | nil => exact nomatch h
  | cons e rest ih =>
    rw [firstEdges]
    rcases List.mem_cons.1 h with rfl | h
    · rw [if_neg (by simpa using hseen)]
      exact ⟨edge.2, List.mem_cons_self⟩
    · split
      · exact ih seen h hseen
      · -- The edge may be dropped only for an earlier one to the same package.
        by_cases heq : edge.1 = e.1
        · have he : (edge.1, e.2) = e := Prod.ext heq rfl
          exact ⟨e.2, by rw [he]; exact List.mem_cons_self⟩
        · obtain ⟨request, hmem⟩ := ih (e.1 :: seen) h (by simp [heq, hseen])
          exact ⟨request, List.mem_cons_of_mem _ hmem⟩

/-- Every dependency that is followed has an edge to its package. -/
theorem exists_mem_edgesOf (identify : Origin → Identity) (w : TraitWalk) (id : Identity)
    (m : Manifest) (filter : ProductFilter) (dep : Dependency)
    (h : dep ∈ m.followed identify filter (w.enabled.of id)) :
    ∃ request, (identify dep.origin, request) ∈ w.edgesOf identify id m filter := by
  have hedge : (identify dep.origin, dep.requestedTraits (w.enabled.of id)) ∈
      (m.followed identify filter (w.enabled.of id)).map fun d =>
        (identify d.origin, d.requestedTraits (w.enabled.of id)) :=
    List.mem_map.2 ⟨dep, h, rfl⟩
  exact exists_mem_firstEdges [] _ _ hedge (by simp)

/-- The traits of a package that has just been expanded are those of the event. -/
theorem of_expand_enable (w : TraitWalk) (id : Identity) (traits : Names) :
    ((w.enable id traits).expand id).enabled.of id = traits := by
  rw [EnabledTraits.of, SortedMap.getD, expand, enable, SortedMap.get?_put_self, Option.getD_some]

section
variable {mirrors : Mirrors} {c : Catalog} {w w' : TraitWalk} {edges : List TraitEdge}
  {log : List TraitEvent}

/-- Every pending edge is followed. -/
theorem Walks.asked (h : Walks mirrors c w edges log w') (edge : TraitEdge)
    (hedge : edge ∈ edges) : .asked edge.1 edge.2 ∈ log := by
  induction h with
  | done w => exact nomatch hedge
  | absent hm _ ih =>
    rcases List.mem_cons.1 hedge with rfl | hedge
    · exact List.mem_cons_self
    · exact List.mem_cons_of_mem _ (ih hedge)
  | again hm htraits hmem _ ih =>
    rcases List.mem_cons.1 hedge with rfl | hedge
    · exact List.mem_cons_self
    · exact List.mem_cons_of_mem _ (ih hedge)
  -- The edges of the package come first, and the pending ones after them.
  | first hm htraits hmem _ ih =>
    rcases List.mem_cons.1 hedge with rfl | hedge
    · exact List.mem_cons_self
    · exact List.mem_cons_of_mem _ (List.mem_cons_of_mem _ (ih (List.mem_append_right _ hedge)))

/-- The dependencies that are followed for the filter and traits of an expansion are asked. -/
def Expands (mirrors : Mirrors) (c : Catalog) (log : List TraitEvent) (id : Identity)
    (filter : ProductFilter) (traits : Names) : Prop :=
  ∃ m, c.manifest? id = some m ∧ ∀ dep ∈ m.followed mirrors.identify filter traits,
    ∃ request, .asked (mirrors.identify dep.origin) request ∈ log

/-- More events do not take away what has been asked. -/
theorem Expands.mono {log' : List TraitEvent} {id : Identity} {filter : ProductFilter}
    {traits : Names} (h : Expands mirrors c log id filter traits)
    (hsub : ∀ e ∈ log, e ∈ log') : Expands mirrors c log' id filter traits := by
  obtain ⟨m, hm, hasked⟩ := h
  refine ⟨m, hm, fun dep hdep => ?_⟩
  obtain ⟨request, hmem⟩ := hasked dep hdep
  exact ⟨request, hsub _ hmem⟩

/-- A walk asks everything that is followed for an expansion. -/
theorem Walks.expands (h : Walks mirrors c w edges log w') {id : Identity}
    {filter : ProductFilter} {traits : Names} (hexp : .expanded id filter traits ∈ log) :
    Expands mirrors c log id filter traits := by
  induction h with
  | done w => exact nomatch hexp
  | absent hm _ ih =>
    rcases List.mem_cons.1 hexp with heq | hexp
    · exact nomatch heq
    · exact (ih hexp).mono fun e he => List.mem_cons_of_mem _ he
  | again hm htraits hmem _ ih =>
    rcases List.mem_cons.1 hexp with heq | hexp
    · exact nomatch heq
    · exact (ih hexp).mono fun e he => List.mem_cons_of_mem _ he
  | @first w w' id' request rest log m traits' hm htraits hmem hrest ih =>
    have hsub : ∀ e ∈ log, e ∈ TraitEvent.asked id' request ::
        .expanded id' .everything traits' :: log :=
      fun e he => List.mem_cons_of_mem _ (List.mem_cons_of_mem _ he)
    rcases List.mem_cons.1 hexp with heq | hexp
    · exact nomatch heq
    · rcases List.mem_cons.1 hexp with heq | hexp
      · -- The edges of the package that is expanded are pending from here on.
        obtain ⟨rfl, rfl, rfl⟩ := TraitEvent.expanded.inj heq
        refine Expands.mono ⟨m, hm, fun dep hdep => ?_⟩ hsub
        rw [← of_expand_enable (w.record id request) id traits] at hdep
        obtain ⟨request', hedge⟩ := exists_mem_edgesOf mirrors.identify _ id m .everything dep hdep
        exact ⟨request', hrest.asked _ (List.mem_append_left _ hedge)⟩
      · exact (ih hexp).mono hsub

/-- The walks from the roots ask everything that is followed for an expansion. -/
theorem RootsWalk.expands {rootFilter : ProductFilter} {roots : List Identity}
    (h : RootsWalk mirrors c rootFilter w roots log w') {id : Identity}
    {filter : ProductFilter} {traits : Names} (hexp : .expanded id filter traits ∈ log) :
    Expands mirrors c log id filter traits := by
  induction h with
  | done w => exact nomatch hexp
  | absent hm _ ih => exact ih hexp
  | @root w w₁ w' id' rest log log' m hm hwalk _ ih =>
    have hfirst : ∀ e ∈ log, e ∈ TraitEvent.expanded id' rootFilter (w.enabled.of id') ::
        (log ++ log') := fun e he => List.mem_cons_of_mem _ (List.mem_append_left _ he)
    -- The root itself is expanded, or the event is in the log of a walk.
    rcases List.mem_cons.1 hexp with heq | hexp
    · obtain ⟨rfl, rfl, rfl⟩ := TraitEvent.expanded.inj heq
      -- The edges of the root are those from which its walk begins.
      refine Expands.mono ⟨m, hm, fun dep hdep => ?_⟩ hfirst
      obtain ⟨request, hedge⟩ := exists_mem_edgesOf mirrors.identify w id m filter dep hdep
      exact ⟨request, hwalk.asked (mirrors.identify dep.origin, request) hedge⟩
    · rcases List.mem_append.1 hexp with hexp | hexp
      · exact (hwalk.expands hexp).mono hfirst
      · exact (ih hexp).mono fun e he => List.mem_cons_of_mem _ (List.mem_append_right _ he)

/-! ### Packages with an entry have been expanded -/

/-- Every package with enabled traits has been expanded. -/
def EnabledExpanded (w : TraitWalk) : Prop :=
  ∀ id, (SortedMap.get? w.enabled id).isSome = true → id ∈ w.expanded

/-- Traits are enabled for a package that has been expanded. -/
theorem EnabledExpanded.enable (hw : EnabledExpanded w) {id : Identity} {request : Option Names}
    {traits : Names} {expanded : List Identity} (hid : id ∈ expanded)
    (hsub : ∀ q ∈ w.expanded, q ∈ expanded) :
    EnabledExpanded { (w.record id request).enable id traits with expanded } := by
  intro q hq
  by_cases heq : q = id
  · exact heq ▸ hid
  · refine hsub q (hw q ?_)
    rwa [TraitWalk.enable, SortedMap.get?_put_of_ne _ _ heq] at hq

/-- A walk expands every package for which it enables traits. -/
theorem Walks.enabledExpanded (h : Walks mirrors c w edges log w') (hw : EnabledExpanded w) :
    EnabledExpanded w' := by
  induction h with
  | done w => exact hw
  | absent hm _ ih => exact ih hw
  | again hm htraits hmem _ ih => exact ih (hw.enable hmem fun _ hq => hq)
  | first hm htraits hmem _ ih =>
    exact ih (hw.enable List.mem_cons_self fun _ hq => List.mem_cons_of_mem _ hq)

/-- The packages that a walk expands are in its log. -/
theorem Walks.expanded (h : Walks mirrors c w edges log w') {id : Identity}
    (hid : id ∈ w'.expanded) :
    id ∈ w.expanded ∨ ∃ filter traits, .expanded id filter traits ∈ log := by
  induction h with
  | done w => exact .inl hid
  | absent hm _ ih =>
    exact (ih hid).imp_right fun ⟨filter, traits, h⟩ => ⟨filter, traits, List.mem_cons_of_mem _ h⟩
  | again hm htraits hmem _ ih =>
    exact (ih hid).imp_right fun ⟨filter, traits, h⟩ => ⟨filter, traits, List.mem_cons_of_mem _ h⟩
  | first hm htraits hmem _ ih =>
    rcases ih hid with hid | ⟨filter, traits, h⟩
    · rcases List.mem_cons.1 hid with rfl | hid
      · exact .inr ⟨_, _, List.mem_cons_of_mem _ List.mem_cons_self⟩
      · exact .inl hid
    · exact .inr ⟨filter, traits, List.mem_cons_of_mem _ (List.mem_cons_of_mem _ h)⟩

variable {rootFilter : ProductFilter} {roots : List Identity}

/-- The walks from the roots expand every package for which they enable traits. -/
theorem RootsWalk.enabledExpanded (h : RootsWalk mirrors c rootFilter w roots log w')
    (hw : EnabledExpanded w) : EnabledExpanded w' := by
  induction h with
  | done w => exact hw
  | absent _ _ ih => exact ih hw
  | root _ hwalk _ ih => exact ih (hwalk.enabledExpanded hw)

/-- The packages that the walks from the roots expand are in the log. -/
theorem RootsWalk.expanded (h : RootsWalk mirrors c rootFilter w roots log w') {id : Identity}
    (hid : id ∈ w'.expanded) :
    id ∈ w.expanded ∨ ∃ filter traits, .expanded id filter traits ∈ log := by
  induction h with
  | done w => exact .inl hid
  | absent _ _ ih => exact ih hid
  | root _ hwalk _ ih =>
    rcases ih hid with hid | ⟨filter, traits, h⟩
    · refine (hwalk.expanded hid).imp_right fun ⟨filter, traits, h⟩ => ⟨filter, traits, ?_⟩
      exact List.mem_cons_of_mem _ (List.mem_append_left _ h)
    · exact .inr ⟨filter, traits, List.mem_cons_of_mem _ (List.mem_append_right _ h)⟩

/-- Every root with a manifest is expanded. -/
theorem RootsWalk.expanded_root (h : RootsWalk mirrors c rootFilter w roots log w')
    {id : Identity} (hid : id ∈ roots) (hhas : c.has id = true) :
    ∃ filter traits, .expanded id filter traits ∈ log := by
  obtain ⟨m, hm⟩ := Catalog.has_iff.1 hhas
  induction h with
  | done w => exact nomatch hid
  | absent hnone _ ih =>
    rcases List.mem_cons.1 hid with rfl | hid
    · rw [hnone] at hm
      exact nomatch hm
    · exact ih hid
  | root _ _ _ ih =>
    rcases List.mem_cons.1 hid with rfl | hid
    · exact ⟨_, _, List.mem_cons_self⟩
    · obtain ⟨filter, traits, h⟩ := ih hid
      exact ⟨filter, traits, List.mem_cons_of_mem _ (List.mem_append_right _ h)⟩

/-- The roots that have been asked are those that count as expanded, and they have records. -/
theorem asked_askRoot {selection : TraitSelection} {asked : TraitWalk}
    (h : roots.foldlM (askRoot c selection) w = .ok asked) :
    (EnabledExpanded w → EnabledExpanded asked) ∧
      (∀ id ∈ asked.expanded, id ∈ w.expanded ∨ id ∈ roots ∧ c.has id = true) ∧
      ∀ id, (id ∈ roots ∧ c.has id = true ∨ (SortedMap.get? w.requested id).isSome = true) →
        (SortedMap.get? asked.requested id).isSome = true := by
  induction roots generalizing w with
  | nil =>
    cases h
    exact ⟨id, fun id hid => .inl hid, fun id hid => hid.resolve_left fun h => nomatch h.1⟩
  | cons root roots ih =>
    obtain ⟨w₁, hask, hrest⟩ := Except.foldlM_cons_eq_ok.1 h
    obtain ⟨henabled, hexpanded, hrequested⟩ := ih hrest
    have hhas : c.has root = (c.manifest? root).isSome := SortedMap.contains_eq_isSome _ _
    -- A root without a manifest is passed over; any other gets its record and its traits.
    rcases askRoot_ok hask with ⟨hm, rfl⟩ | ⟨m, traits, hm, -, rfl⟩
    · refine ⟨henabled, fun id hid => ?_, fun id hid => hrequested id ?_⟩
      · exact (hexpanded id hid).imp_right fun ⟨hmem, h⟩ => ⟨List.mem_cons_of_mem _ hmem, h⟩
      · refine hid.imp_left fun ⟨hmem, h⟩ => ⟨?_, h⟩
        refine (List.mem_cons.1 hmem).resolve_left fun heq => ?_
        rw [heq, hhas, hm] at h
        exact nomatch h
    · refine ⟨fun hw => henabled fun id hid => ?_, fun id hid => ?_, fun id hid => hrequested id ?_⟩
      · by_cases heq : id = root
        · exact heq ▸ List.mem_cons_self
        · rw [SortedMap.get?_put_of_ne _ _ heq] at hid
          exact List.mem_cons_of_mem _ (hw id hid)
      · rcases hexpanded id hid with hid | ⟨hmem, h⟩
        · rcases List.mem_cons.1 hid with rfl | hid
          · exact .inr ⟨List.mem_cons_self, by rw [hhas, hm]; rfl⟩
          · exact .inl hid
        · exact .inr ⟨List.mem_cons_of_mem _ hmem, h⟩
      · by_cases heq : id = root
        · right
          rw [heq, SortedMap.get?_put_self]
          rfl
        · rw [SortedMap.get?_put_of_ne _ _ heq]
          refine hid.imp_left fun ⟨hmem, h⟩ => ⟨(List.mem_cons.1 hmem).resolve_left heq, h⟩

/-! ### How a package was expanded -/

/-- Walks forget no expansion. -/
theorem Walks.expanded_mono (h : Walks mirrors c w edges log w') {id : Identity}
    (hid : id ∈ w.expanded) : id ∈ w'.expanded := by
  induction h with
  | done w => exact hid
  | absent _ _ ih => exact ih hid
  | again _ _ _ _ ih => exact ih hid
  | first _ _ _ _ ih => exact ih (List.mem_cons_of_mem _ hid)

/-- The walks from the roots forget no expansion. -/
theorem RootsWalk.expanded_mono (h : RootsWalk mirrors c rootFilter w roots log w')
    {id : Identity} (hid : id ∈ w.expanded) : id ∈ w'.expanded := by
  induction h with
  | done w => exact hid
  | absent _ _ ih => exact ih hid
  | root _ hwalk _ ih => exact ih (hwalk.expanded_mono hid)

/-- A walk expands packages that had not been expanded, and everything of them. -/
theorem Walks.fresh_of_expanded (h : Walks mirrors c w edges log w') {id : Identity}
    {filter : ProductFilter} {traits : Names} (hexp : .expanded id filter traits ∈ log) :
    id ∉ w.expanded ∧ filter = .everything := by
  induction h with
  | done w => exact nomatch hexp
  | absent _ _ ih => exact ih ((List.mem_cons.1 hexp).resolve_left nofun)
  | again _ _ _ _ ih => exact ih ((List.mem_cons.1 hexp).resolve_left nofun)
  | first _ _ hmem _ ih =>
    rcases List.mem_cons.1 ((List.mem_cons.1 hexp).resolve_left nofun) with heq | hexp
    · obtain ⟨rfl, rfl, rfl⟩ := TraitEvent.expanded.inj heq
      exact ⟨hmem, rfl⟩
    · exact ⟨fun hid => (ih hexp).1 (List.mem_cons_of_mem _ hid), (ih hexp).2⟩

/-- The walks from the roots expand the roots for their filter, and everything of packages that had
not been expanded. -/
theorem RootsWalk.fresh_of_expanded (h : RootsWalk mirrors c rootFilter w roots log w')
    {id : Identity} {filter : ProductFilter} {traits : Names}
    (hexp : .expanded id filter traits ∈ log) :
    id ∈ roots ∧ filter = rootFilter ∨ id ∉ w.expanded ∧ filter = .everything := by
  induction h with
  | done w => exact nomatch hexp
  | absent _ _ ih => exact (ih hexp).imp_left fun h => ⟨List.mem_cons_of_mem _ h.1, h.2⟩
  -- Three places for the event: the root itself, the walk from it, the roots after it.
  | root _ hwalk _ ih =>
    rcases List.mem_cons.1 hexp with heq | hexp
    · obtain ⟨rfl, rfl, rfl⟩ := TraitEvent.expanded.inj heq
      exact .inl ⟨List.mem_cons_self, rfl⟩
    · rcases List.mem_append.1 hexp with hexp | hexp
      · exact .inr (hwalk.fresh_of_expanded hexp)
      · exact (ih hexp).imp (fun h => ⟨List.mem_cons_of_mem _ h.1, h.2⟩)
          fun h => ⟨fun hid => h.1 (hwalk.expanded_mono hid), h.2⟩

/-! ### Traits that change after the expansion -/

/-- Enabling traits of one package leaves those of the others alone. -/
theorem of_enable_of_ne (w : TraitWalk) {id id' : Identity} (traits : Names) (hne : id ≠ id') :
    (w.enable id' traits).enabled.of id = w.enabled.of id := by
  rw [EnabledTraits.of, SortedMap.getD, enable, SortedMap.get?_put_of_ne _ _ hne]
  rfl

/-- A walk changes the traits of a package only where the package is asked. -/
theorem Walks.traits_or_asked (h : Walks mirrors c w edges log w') (id : Identity) :
    w'.enabled.of id = w.enabled.of id ∨ ∃ request, .asked id request ∈ log := by
  induction h with
  | done w => exact .inl rfl
  | absent _ _ ih => exact ih.imp_right fun ⟨r, hr⟩ => ⟨r, List.mem_cons_of_mem _ hr⟩
  -- An edge to `id` itself is a request for it; one to another package does not touch it.
  | @again w _ id' request _ _ _ traits _ _ _ _ ih =>
    by_cases heq : id = id'
    · exact .inr ⟨request, heq ▸ List.mem_cons_self⟩
    · exact ih.imp (fun h => h.trans (of_enable_of_ne (w.record id' request) traits heq))
        fun ⟨r, hr⟩ => ⟨r, List.mem_cons_of_mem _ hr⟩
  | @first w _ id' request _ _ _ traits _ _ _ _ ih =>
    by_cases heq : id = id'
    · exact .inr ⟨request, heq ▸ List.mem_cons_self⟩
    · exact ih.imp (fun h => h.trans (of_enable_of_ne (w.record id' request) traits heq))
        fun ⟨r, hr⟩ => ⟨r, List.mem_cons_of_mem _ (List.mem_cons_of_mem _ hr)⟩

/-- The walks from the roots change the traits of a package only where the package is asked. -/
theorem RootsWalk.traits_or_asked (h : RootsWalk mirrors c rootFilter w roots log w')
    (id : Identity) :
    w'.enabled.of id = w.enabled.of id ∨ ∃ request, .asked id request ∈ log := by
  induction h with
  | done w => exact .inl rfl
  | absent _ _ ih => exact ih
  | root _ hwalk _ ih =>
    rcases ih with hrest | ⟨r, hr⟩
    · exact (hwalk.traits_or_asked id).imp hrest.trans
        fun ⟨r, hr⟩ => ⟨r, List.mem_cons_of_mem _ (List.mem_append_left _ hr)⟩
    · exact .inr ⟨r, List.mem_cons_of_mem _ (List.mem_append_right _ hr)⟩

/-- The package that was expanded still has the traits of that moment, or it was asked again after
its expansion. -/
def KeptOrAsked (w : TraitWalk) (log : List TraitEvent) (id : Identity) (filter : ProductFilter)
    (traits : Names) : Prop :=
  w.enabled.of id = traits ∨
    ∃ request, [TraitEvent.expanded id filter traits, .asked id request].Sublist log

/-- When the run goes on, the traits change only where the package is asked. -/
theorem KeptOrAsked.append {log' : List TraitEvent} {id : Identity} {filter : ProductFilter}
    {traits : Names} (h : KeptOrAsked w log id filter traits)
    (hexp : .expanded id filter traits ∈ log)
    (hrest : w'.enabled.of id = w.enabled.of id ∨ ∃ request, .asked id request ∈ log') :
    KeptOrAsked w' (log ++ log') id filter traits := by
  rcases h with hkept | ⟨request, hsub⟩
  · refine hrest.imp (fun h => h.trans hkept) fun ⟨request, hr⟩ => ⟨request, ?_⟩
    exact (List.singleton_sublist.2 hexp).append (List.singleton_sublist.2 hr)
  · exact .inr ⟨request, hsub.trans (List.sublist_append_left log log')⟩

/-- Events in front of the expansion do not matter. -/
theorem KeptOrAsked.mono {log' : List TraitEvent} {id : Identity} {filter : ProductFilter}
    {traits : Names} (h : KeptOrAsked w log id filter traits) (hsub : log.Sublist log') :
    KeptOrAsked w log' id filter traits :=
  h.imp_right fun ⟨request, hpair⟩ => ⟨request, hpair.trans hsub⟩

/-- A package whose expansion is in front of a log is asked again there, or its traits stay. -/
theorem KeptOrAsked.cons {id : Identity} {filter : ProductFilter} {traits : Names}
    (htraits : w.enabled.of id = traits)
    (hrest : w'.enabled.of id = w.enabled.of id ∨ ∃ request, .asked id request ∈ log) :
    KeptOrAsked w' (.expanded id filter traits :: log) id filter traits := by
  have hfirst : KeptOrAsked w [.expanded id filter traits] id filter traits := .inl htraits
  exact hfirst.append List.mem_cons_self hrest

/-- What happens in a walk to the traits of a package that it has expanded. -/
theorem Walks.keptOrAsked (h : Walks mirrors c w edges log w') {id : Identity}
    {filter : ProductFilter} {traits : Names} (hexp : .expanded id filter traits ∈ log) :
    KeptOrAsked w' log id filter traits := by
  induction h with
  | done w => exact nomatch hexp
  | absent _ _ ih =>
    exact (ih ((List.mem_cons.1 hexp).resolve_left nofun)).mono (List.sublist_cons_self _ _)
  | again _ _ _ _ ih =>
    exact (ih ((List.mem_cons.1 hexp).resolve_left nofun)).mono (List.sublist_cons_self _ _)
  -- Only here a package is expanded: it is the one that is asked, or one that comes later.
  | @first w _ id' request _ log _ traits' _ _ _ hrest ih =>
    refine KeptOrAsked.mono ?_ (List.sublist_cons_self _ _)
    rcases List.mem_cons.1 ((List.mem_cons.1 hexp).resolve_left nofun) with heq | hexp
    · obtain ⟨rfl, rfl, rfl⟩ := TraitEvent.expanded.inj heq
      exact .cons (of_expand_enable (w.record id request) id traits) (hrest.traits_or_asked id)
    · exact (ih hexp).mono (List.sublist_cons_self _ _)

/-- What happens in the walks from the roots to the traits of a package that they have expanded. -/
theorem RootsWalk.keptOrAsked (h : RootsWalk mirrors c rootFilter w roots log w') {id : Identity}
    {filter : ProductFilter} {traits : Names} (hexp : .expanded id filter traits ∈ log) :
    KeptOrAsked w' log id filter traits := by
  induction h with
  | done w => exact nomatch hexp
  | absent _ _ ih => exact ih hexp
  | @root w w₁ w' id' rest log log' m hm hwalk hrest ih =>
    -- The traits of the root were worked out before, those of the others in one of the walks.
    rcases List.mem_cons.1 hexp with heq | hexp
    · obtain ⟨rfl, rfl, rfl⟩ := TraitEvent.expanded.inj heq
      exact .cons rfl ((RootsWalk.root hm hwalk hrest).traits_or_asked id |>.imp_right
        fun ⟨r, hr⟩ => ⟨r, (List.mem_cons.1 hr).resolve_left nofun⟩)
    · refine KeptOrAsked.mono ?_ (List.sublist_cons_self _ _)
      rcases List.mem_append.1 hexp with hexp | hexp
      · exact (hwalk.keptOrAsked hexp).append hexp (hrest.traits_or_asked id)
      · exact (ih hexp).mono (List.sublist_append_right log log')

end

end TraitWalk

/-- A record that is there, or to which requests are added, is there. -/
theorem isSome_foldRequests (record : Option Names) (requests : List (Option Names))
    (h : record.isSome = true ∨ requests ≠ []) : (foldRequests record requests).isSome = true := by
  induction requests generalizing record with
  | nil => exact h.resolve_right fun hne => hne rfl
  | cons request requests ih => exact ih _ (.inl rfl)

namespace TraitsRun

variable {c : Catalog} {mirrors : Mirrors} {extra : List Dependency} {selection : TraitSelection}
  {filter : ProductFilter} {log : List TraitEvent} {w : TraitWalk}

/-- A package with a record has an entry among the enabled traits. -/
theorem enabled_of_requested (h : TraitsRun c mirrors extra selection filter log w)
    {id : Identity} (hhas : c.has id = true)
    (hrequested : (SortedMap.get? w.requested id).isSome = true) :
    w.enabled.contains id = true := by
  obtain ⟨m, hm⟩ := Catalog.has_iff.1 hhas
  obtain ⟨record, hrecord⟩ := Option.isSome_iff_exists.1 hrequested
  obtain ⟨traits, htraits, -⟩ := h.settled id m record hm hrecord
  rw [SortedMap.contains_eq_isSome, htraits]
  rfl

/-- A package that is asked has an entry among the enabled traits. -/
theorem enabled_of_asked (h : TraitsRun c mirrors extra selection filter log w)
    {id : Identity} (hhas : c.has id = true) {request : Option Names}
    (hasked : .asked id request ∈ log) : w.enabled.contains id = true := by
  refine h.enabled_of_requested hhas ?_
  obtain ⟨asked, walked, log₁, log₂, -, hroots, hextra, rfl⟩ := h.run
  have hne : requestsTo (log₁ ++ log₂) id ≠ [] :=
    List.ne_nil_of_mem ((mem_requestsTo _ _ _).2 hasked)
  rw [requestsTo_append] at hne
  rw [hextra.requested]
  -- The request is in one of the two parts of the log, and a record is never taken away.
  by_cases hempty : requestsTo log₂ id = []
  · refine isSome_foldRequests _ _ (.inl ?_)
    rw [hroots.requested]
    exact isSome_foldRequests _ _ (.inr fun hnil => hne (by rw [hnil, hempty]; rfl))
  · exact isSome_foldRequests _ _ (.inr hempty)

/-- A root has an entry among the enabled traits, and so has the package of an extra dependency. -/
theorem enabled_of_start (h : TraitsRun c mirrors extra selection filter log w) {id : Identity}
    (hhas : c.has id = true) (hid : id ∈ c.startsOf mirrors extra) :
    w.enabled.contains id = true := by
  obtain ⟨asked, walked, log₁, log₂, hasked, hroots, hextra, rfl⟩ := h.run
  rcases List.mem_append.1 hid with hid | hid
  · -- A root has its record from the beginning.
    refine h.enabled_of_requested hhas ?_
    have hroot := (TraitWalk.asked_askRoot hasked).2.2 id (.inl ⟨hid, hhas⟩)
    rw [hextra.requested, hroots.requested]
    exact isSome_foldRequests _ _ (.inl (isSome_foldRequests _ _ (.inl hroot)))
  · -- An extra dependency is among the edges of the last walk.
    obtain ⟨dep, hdep, rfl⟩ := List.mem_map.1 hid
    have hedge := hextra.asked _ (List.mem_map_of_mem hdep)
    exact h.enabled_of_asked hhas (List.mem_append_right _ hedge)

/-- A package with an entry among the enabled traits has been expanded. -/
theorem expanded_of_enabled (h : TraitsRun c mirrors extra selection filter log w)
    {id : Identity} (henabled : w.enabled.contains id = true) :
    ∃ filter traits, .expanded id filter traits ∈ log := by
  obtain ⟨asked, walked, log₁, log₂, hasked, hroots, hextra, rfl⟩ := h.run
  obtain ⟨hstart, hexpanded, -⟩ := TraitWalk.asked_askRoot hasked
  have hempty : TraitWalk.EnabledExpanded TraitWalk.start := fun _ h => nomatch h
  rw [SortedMap.contains_eq_isSome] at henabled
  have hmem := hextra.enabledExpanded (hroots.enabledExpanded (hstart hempty)) id henabled
  -- The event is in the last walk, in a walk from the roots, or stands for a root.
  rcases hextra.expanded hmem with hmem | ⟨f, traits, hevent⟩
  · rcases hroots.expanded hmem with hmem | ⟨f, traits, hevent⟩
    · rcases hexpanded id hmem with hmem | ⟨hroot, hhas⟩
      · exact nomatch hmem
      · obtain ⟨f, traits, hevent⟩ := hroots.expanded_root hroot hhas
        exact ⟨f, traits, List.mem_append_left _ hevent⟩
    · exact ⟨f, traits, List.mem_append_left _ hevent⟩
  · exact ⟨f, traits, List.mem_append_right _ hevent⟩

/-- Everything that is followed for an expansion is asked. -/
theorem asked_of_expanded (h : TraitsRun c mirrors extra selection filter log w)
    {id : Identity} {f : ProductFilter} {traits : Names}
    (hexp : .expanded id f traits ∈ log) : TraitWalk.Expands mirrors c log id f traits := by
  obtain ⟨asked, walked, log₁, log₂, -, hroots, hextra, rfl⟩ := h.run
  rcases List.mem_append.1 hexp with hexp | hexp
  · exact (hroots.expands hexp).mono fun e he => List.mem_append_left _ he
  · exact (hextra.expands hexp).mono fun e he => List.mem_append_right _ he

/-- Roots are expanded for their filter, and everything of all other packages. -/
theorem filter_of_expanded (h : TraitsRun c mirrors extra selection filter log w)
    {id : Identity} {f : ProductFilter} {traits : Names} (hexp : .expanded id f traits ∈ log) :
    f = if c.isRoot id then filter else .everything := by
  obtain ⟨m, hm, -⟩ := h.asked_of_expanded hexp
  have hhas : c.has id = true := Catalog.has_iff.2 ⟨m, hm⟩
  obtain ⟨asked, walked, log₁, log₂, hasked, hroots, hextra, rfl⟩ := h.run
  -- Roots count as expanded from the beginning, so no walk comes to them for the first time.
  have hstart (hid : id ∈ c.roots) : id ∈ asked.expanded :=
    TraitWalk.expanded_askRoot hasked id hid hhas
  have hfresh : id ∈ c.roots ∧ f = filter ∨ id ∉ asked.expanded ∧ f = .everything := by
    rcases List.mem_append.1 hexp with hexp | hexp
    · exact hroots.fresh_of_expanded hexp
    · obtain ⟨hnot, hf⟩ := hextra.fresh_of_expanded hexp
      exact .inr ⟨fun hid => hnot (hroots.expanded_mono hid), hf⟩
  rcases hfresh with ⟨hid, hf⟩ | ⟨hnot, hf⟩
  · rw [if_pos (by simpa [Catalog.isRoot] using hid), hf]
  · rw [if_neg (by simpa [Catalog.isRoot] using fun hid => hnot (hstart hid)), hf]

/-- A package that was expanded has the traits of that moment in the end, or it was asked again
after its expansion. -/
theorem keptOrAsked (h : TraitsRun c mirrors extra selection filter log w) {id : Identity}
    {f : ProductFilter} {traits : Names} (hexp : .expanded id f traits ∈ log) :
    w.KeptOrAsked log id f traits := by
  obtain ⟨asked, walked, log₁, log₂, -, hroots, hextra, rfl⟩ := h.run
  rcases List.mem_append.1 hexp with hexp | hexp
  · exact (hroots.keptOrAsked hexp).append hexp (hextra.traits_or_asked id)
  · exact (hextra.keptOrAsked hexp).mono (List.sublist_append_right log₁ log₂)

end TraitsRun

end ModuleGraph
