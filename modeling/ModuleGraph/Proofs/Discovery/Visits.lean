import ModuleGraph.Proofs.Discovery.Reach

/-!
# The visits of discovery

Discovery goes on by visits, and a package can be visited many times, each time for the filter that
it has then.  A filter that changes puts its package in the queue.  So when the queue is empty, the
last visit of every package was for the filter that the package has in the end.

## Key results

- `visitNext_folds`: a visit declares what its package requires for the filter of that moment
- `CaughtUp.visitNext`: the invariant of the visits
- `Catalog.discover_lastVisit`: every package that was met has been visited for its final filter
-/

namespace ModuleGraph

/-- What a package requires for a filter; nothing without a manifest. -/
def Catalog.requirements (c : Catalog) (mirrors : Mirrors) (traits : EnabledTraits)
    (p : Identity) (f : ProductFilter) : List (Dependency × ProductFilter) :=
  match c.manifest? p with
  | none => []
  | some m => m.requiredDependencies mirrors.identify f (traits.of p)

/-- What is known when roots and extra dependencies have been entered. -/
def Catalog.entered (c : Catalog) (mirrors : Mirrors) (extra : List Dependency)
    (filter : ProductFilter) : Except PackageError Discovery :=
  extra.foldlM (Discovery.enterExtra c mirrors)
    (c.roots.foldl (Discovery.enterRoot c filter) Discovery.empty)

namespace Discovery

/-- Visits lead from one state of discovery to another. -/
def Proceeds (c : Catalog) (mirrors : Mirrors) (traits : EnabledTraits) :
    Discovery → Discovery → Prop :=
  Relation.ReflTransGen fun d d' => visitNext c mirrors traits d = .next d'

/-- On the way from `start` to `d`, the visit from `before` to `after` is one of a package for a
filter. -/
structure IsVisit (c : Catalog) (mirrors : Mirrors) (traits : EnabledTraits)
    (start d : Discovery) (p : Identity) (f : ProductFilter) (before after : Discovery) :
    Prop where
  reached : Proceeds c mirrors traits start before
  next : before.queue.head? = some p
  filter : before.filterOf p = f
  visit : visitNext c mirrors traits before = .next after
  goesOn : Proceeds c mirrors traits after d

/-- On the way from `start` to `d`, a package has been visited for a filter. -/
def Visited (c : Catalog) (mirrors : Mirrors) (traits : EnabledTraits) (start d : Discovery)
    (p : Identity) (f : ProductFilter) : Prop :=
  ∃ before after, IsVisit c mirrors traits start d p f before after

/-- Every package that has been met is to be visited, or has been visited for its filter. -/
def CaughtUp (c : Catalog) (mirrors : Mirrors) (traits : EnabledTraits) (start d : Discovery) :
    Prop :=
  ∀ p ∈ d.order, p ∈ d.queue ∨ Visited c mirrors traits start d p (d.filterOf p)

/-- Nothing is taken out of the queue, and packages that are new or have a new filter are in it. -/
structure Requeues (d d' : Discovery) : Prop where
  queue : ∀ p ∈ d.queue, p ∈ d'.queue
  filters : ∀ p, p ∈ d'.queue ∨ d'.filterOf p = d.filterOf p
  order : ∀ p ∈ d'.order, p ∈ d.order ∨ p ∈ d'.queue

variable {c : Catalog} {mirrors : Mirrors} {traits : EnabledTraits}

/-! ### The queue -/

/-- The queue is kept where nothing changes. -/
theorem Requeues.refl (d : Discovery) : Requeues d d :=
  ⟨fun _ hp => hp, fun _ => .inr rfl, fun _ hp => .inl hp⟩

/-- What is kept of the queue in two steps is kept. -/
theorem Requeues.trans {d d' d'' : Discovery} (h : Requeues d d') (h' : Requeues d' d'') :
    Requeues d d'' where
  queue := fun p hp => h'.queue p (h.queue p hp)
  filters := by
    intro p
    rcases h'.filters p with hp | hsame
    · exact .inl hp
    · exact (h.filters p).imp (h'.queue p) fun hsame' => hsame.trans hsame'
  order := by
    intro p hp
    rcases h'.order p hp with hp | hp
    · exact (h.order p hp).imp_right (h'.queue p)
    · exact .inr hp

/-- A filter that is set concerns its own package alone. -/
theorem filterOf_of_ne {d d' : Discovery} {id p : Identity} {f : ProductFilter}
    (hfilters : d'.filters = SortedMap.put d.filters id f) (hne : p ≠ id) :
    d'.filterOf p = d.filterOf p := by
  rw [filterOf, SortedMap.getD, hfilters, SortedMap.get?_put_of_ne _ _ hne]
  rfl

/-- What is new or has a new filter is put in the queue. -/
theorem Queues.requeues {id : Identity} {f : ProductFilter} {d d' : Discovery}
    (h : Queues c id f d d') : Requeues d d' := by
  cases h with
  | kept hqueue horder hfilters =>
    -- Nothing has a new filter.
    have hsame (p : Identity) : d'.filterOf p = d.filterOf p := by
      rw [filterOf, SortedMap.getD, hfilters]
      rfl
    exact ⟨fun p hp => hqueue ▸ hp, fun p => .inr (hsame p), fun p hp => .inl (horder ▸ hp)⟩
  | first _ _ hqueue horder hfilters =>
    have hid : id ∈ d'.queue := by simp [hqueue]
    refine ⟨fun p hp => by simp [hqueue, hp], fun p => ?_, fun p hp => ?_⟩
    · -- Only `id` is new, and it is put in the queue.
      by_cases heq : p = id
      · exact .inl (heq ▸ hid)
      · exact .inr (filterOf_of_ne hfilters heq)
    · rw [horder] at hp
      cases List.mem_append.1 hp with
      | inl hp => exact .inl hp
      | inr hp => exact .inr (List.mem_singleton.1 hp ▸ hid)
  | grown old _ _ _ hqueue horder hfilters =>
    refine ⟨fun p hp => by simp [hqueue, hp], fun p => ?_, fun p hp => .inl (horder ▸ hp)⟩
    -- Only `id` has a new filter.
    by_cases heq : p = id
    · exact .inl (by simp [hqueue, heq])
    · exact .inr (filterOf_of_ne hfilters heq)

/-- Declarations put packages in the queue that are new or whose filters change. -/
theorem requeues_foldlM {p : Identity} {entries : List (Dependency × ProductFilter)}
    {d d' : Discovery} (h : entries.foldlM (declare c mirrors (some p)) d = .ok d') :
    Requeues d d' := by
  refine Except.foldlM_inv (Requeues d) (fun entry _ e e' he hdeclare => ?_) (.refl d) h
  have hdeclared := declare_ok hdeclare
  exact he.trans hdeclared.queues.requeues

/-! ### Visits -/

/-- A visit takes a package from the queue and declares what it requires for its filter. -/
theorem visitNext_folds {d d' : Discovery} (h : visitNext c mirrors traits d = .next d') :
    ∃ id queue, d.queue = id :: queue ∧
      (c.requirements mirrors traits id (d.filterOf id)).foldlM (declare c mirrors (some id))
        { d with queue } = .ok d' := by
  obtain ⟨id, queue, hqueue, ⟨hm, rfl⟩ | ⟨m, hm, hfold⟩⟩ := visitNext_next h
  · refine ⟨id, queue, hqueue, ?_⟩
    rw [Catalog.requirements, hm]
    rfl
  · refine ⟨id, queue, hqueue, ?_⟩
    rw [Catalog.requirements, hm]
    exact hfold

/-- A visit declares what its package requires for its filter. -/
theorem IsVisit.folds {start d before after : Discovery} {p : Identity} {f : ProductFilter}
    (h : IsVisit c mirrors traits start d p f before after) :
    (c.requirements mirrors traits p f).foldlM (declare c mirrors (some p))
      { before with queue := before.queue.tail } = .ok after := by
  obtain ⟨id, queue, hqueue, hfold⟩ := visitNext_folds h.visit
  have hid : id = p := by
    have hnext := h.next
    rw [hqueue] at hnext
    exact Option.some.inj hnext
  rw [hid, h.filter] at hfold
  rw [hqueue]
  exact hfold

/-- The package that is taken from the queue has then been visited for its filter. -/
theorem visited_visitNext {start d d' : Discovery} {p : Identity} {queue : List Identity}
    (hreached : Proceeds c mirrors traits start d) (hqueue : d.queue = p :: queue)
    (hstep : visitNext c mirrors traits d = .next d') :
    Visited c mirrors traits start d' p (d.filterOf p) := by
  have hnext : d.queue.head? = some p := by rw [hqueue, List.head?_cons]
  exact ⟨d, d', hreached, hnext, rfl, hstep, .refl⟩

/-- A visit that has been made on the way stays one when the way goes on. -/
theorem Visited.tail {start d d' : Discovery} {p : Identity} {f : ProductFilter}
    (h : Visited c mirrors traits start d p f) (hstep : visitNext c mirrors traits d = .next d') :
    Visited c mirrors traits start d' p f := by
  obtain ⟨before, after, hvisit⟩ := h
  have hgoesOn : Proceeds c mirrors traits after d' := hvisit.goesOn.tail hstep
  exact ⟨before, after, { hvisit with goesOn := hgoesOn }⟩

/-- A visit takes one package from the queue and visits it for its filter; every other one is still
to be visited, or its last visit was for the filter that it has now. -/
theorem CaughtUp.visitNext {start d d' : Discovery} (hd : CaughtUp c mirrors traits start d)
    (hreached : Proceeds c mirrors traits start d)
    (hstep : visitNext c mirrors traits d = .next d') : CaughtUp c mirrors traits start d' := by
  obtain ⟨id, queue, hqueue, hfold⟩ := visitNext_folds hstep
  have hrequeues := requeues_foldlM hfold
  have hvisit := visited_visitNext hreached hqueue hstep
  intro p hp
  -- A package that is new, or whose filter has changed, is in the queue.
  rcases hrequeues.order p hp with hp | hp
  · rcases hrequeues.filters p with hmem | hsame
    · exact .inl hmem
    · -- The filter is the same, so whatever visited the package for it before will do.
      have hfilter : d'.filterOf p = d.filterOf p := hsame
      rw [hfilter]
      rcases hd p hp with hmem | hvisited
      · rw [hqueue] at hmem
        -- It has been visited just now, or it is still in the queue.
        cases List.mem_cons.1 hmem with
        | inl heq => exact .inr (heq ▸ hvisit)
        | inr hmem => exact .inl (hrequeues.queue p hmem)
      · exact .inr (hvisited.tail hstep)
  · exact .inl hp

/-- Visits that begin where all packages are to be visited keep up with the filters. -/
theorem Proceeds.caughtUp {start d : Discovery} (hstart : ∀ p ∈ start.order, p ∈ start.queue)
    (h : Proceeds c mirrors traits start d) : CaughtUp c mirrors traits start d := by
  induction h with
  | refl => exact fun p hp => .inl (hstart p hp)
  | tail hreached hstep ih => exact ih.visitNext hreached hstep

end Discovery

section
variable {c : Catalog} {mirrors : Mirrors} {traits : EnabledTraits} {extra : List Dependency}
  {filter : ProductFilter} {start d : Discovery}

/-- When roots and extra dependencies have been entered, all packages are to be visited. -/
theorem Catalog.entered_queued (h : c.entered mirrors extra filter = .ok start) :
    ∀ p ∈ start.order, p ∈ start.queue := by
  refine Except.foldlM_inv (fun e : Discovery => ∀ p ∈ e.order, p ∈ e.queue)
    (fun dep _ e e' he (hstep : Discovery.enterExtra c mirrors e dep = .ok e') => ?_) ?_ h
  · obtain ⟨e₁, hdeclared, rfl⟩ := Discovery.enterExtra_ok hstep
    have hrequeues := hdeclared.queues.requeues
    intro p hp
    exact (hrequeues.order p hp).elim (fun hp => hrequeues.queue p (he p hp)) id
  · -- Roots are listed and put in the queue together.
    obtain ⟨hqueue, horder⟩ := Discovery.enterRoots_fields c filter c.roots Discovery.empty
    rw [hqueue, horder]
    exact fun p hp => hp

/-- When roots and extra dependencies have been entered, everything that has been met is one of
them. -/
theorem Catalog.entered_sound (h : c.entered mirrors extra filter = .ok start) :
    Discovery.Sound c (c.startsOf mirrors extra) start := by
  refine Except.foldlM_inv (Discovery.Sound c (c.startsOf mirrors extra))
    (fun dep hdep e e' he hstep => he.enterExtra ?_ hstep) ?_ h
  · exact List.mem_append_right _ (List.mem_map_of_mem hdep)
  · exact List.foldlRecOn c.roots (Discovery.enterRoot c filter) (Discovery.sound_empty c _)
      fun e he id hid => he.enterRoot (List.mem_append_left _ hid)

/-- Discovery that succeeds goes on by visits until none is left. -/
theorem Catalog.discover_proceeds (h : c.discover mirrors traits extra filter = .ok d) :
    ∃ start, c.entered mirrors extra filter = .ok start ∧
      Discovery.Proceeds c mirrors traits start d ∧ d.queue = [] := by
  obtain ⟨start, hstart, hrun⟩ := Catalog.discover_ok h
  refine ⟨start, hstart, ?_⟩
  refine Loop.run_post (Discovery.Proceeds c mirrors traits start)
    (fun r => ∀ e, r = .ok e → Discovery.Proceeds c mirrors traits start e ∧ e.queue = [])
    (fun e e' he hstep => he.tail hstep) (fun e r he hstep e' hr => ?_) .refl hrun d rfl
  subst hr
  obtain ⟨hqueue, rfl⟩ := Discovery.visitNext_ok hstep
  exact ⟨he, hqueue⟩

/-- When discovery has ended, every package that was met has been visited for the filter that it has
in the end. -/
theorem Catalog.discover_lastVisit (h : c.discover mirrors traits extra filter = .ok d)
    {p : Identity} (hp : p ∈ d.order) :
    ∃ start, c.entered mirrors extra filter = .ok start ∧
      Discovery.Visited c mirrors traits start d p (d.filterOf p) := by
  obtain ⟨start, hstart, hproceeds, hqueue⟩ := Catalog.discover_proceeds h
  have hcaught := hproceeds.caughtUp (Catalog.entered_queued hstart)
  refine ⟨start, hstart, (hcaught p hp).resolve_left fun hmem => ?_⟩
  rw [hqueue] at hmem
  exact nomatch hmem

end

end ModuleGraph
