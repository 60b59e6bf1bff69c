import ModuleGraph.Proofs.Discovery.Visits

/-!
# Discovery has met everything that is required

A visit notes everything that its package requires for the filter of that moment, and nothing that
is noted is forgotten.  The last visit of a package is for the filter that it has in the end.  On
the other hand nothing is noted but by visits: a package that is noted for another one, at hand or
missing, was required at some visit of that.

## Key results

- `Visited.met`: what a package required when it was visited has been noted
- `Visited.within`: the filter for which a package was visited has only grown
- `Catalog.discover_closed`: what is required of a package in the end has been noted
- `Catalog.exists_visit_of_noted`: what is noted for a package was required at some visit
- `Catalog.rootFilter_within`: a root is visited for no less than what is asked of all roots
-/

namespace ModuleGraph

namespace Discovery

/-- It has been noted that a package needs something of another one. -/
structure Met (c : Catalog) (d : Discovery) (p id : Identity) (f : ProductFilter) : Prop where
  loaded : c.has id = true → id ∈ d.edgesOf p ∧
    ∃ f', SortedMap.get? d.filters id = some f' ∧ f.Within f'
  unloaded : c.has id = false → id ∈ d.unloadedOf p

/-- Everything that a package requires for its filter has been noted. -/
def Satisfied (c : Catalog) (mirrors : Mirrors) (traits : EnabledTraits) (d : Discovery)
    (p : Identity) : Prop :=
  ∀ m, c.manifest? p = some m →
    ∀ entry ∈ m.requiredDependencies mirrors.identify (d.filterOf p) (traits.of p),
      Met c d p (mirrors.identify entry.1.origin) entry.2

variable {c : Catalog} {mirrors : Mirrors} {traits : EnabledTraits}

/-! ### What visits note -/

/-- What has been noted is not forgotten. -/
theorem Met.grows {d d' : Discovery} {p id : Identity} {f : ProductFilter}
    (h : Met c d p id f) (hgrows : Grows d d') : Met c d' p id f where
  loaded := by
    intro hhas
    obtain ⟨hmem, g, hg, hwithin⟩ := h.loaded hhas
    obtain ⟨g', hg', hwithin'⟩ := hgrows.filters id g hg
    exact ⟨hgrows.edges p id hmem, g', hg', hwithin.trans hwithin'⟩
  unloaded := fun hhas => hgrows.unloaded p id (h.unloaded hhas)

/-- A declaration is noted. -/
theorem Declared.met {p id : Identity} {f : ProductFilter} {d d' : Discovery}
    (h : Declared c (some p) id f d d') : Met c d' p id f where
  loaded := by
    intro hhas
    refine ⟨?_, ?_⟩
    · rw [h.edges p, if_pos ⟨rfl, hhas⟩]
      exact (mem_addNew _ _ _).2 (.inr rfl)
    · -- The filter is the one that was asked for, or this is joined to the one before.
      cases h.needed with
      | absent hno =>
        rw [hhas] at hno
        exact nomatch hno
      | first _ _ hfilters => exact ⟨f, by rw [hfilters, SortedMap.get?_put_self], .refl f⟩
      | again old _ _ hfilters =>
        exact ⟨_, by rw [hfilters, SortedMap.get?_put_self],
          ProductFilter.within_union_right old f⟩
  unloaded := by
    intro hhas
    rw [h.unloaded p, if_pos ⟨rfl, hhas⟩]
    exact (mem_addNew _ _ _).2 (.inr rfl)

/-- All declarations of a visit are noted. -/
theorem met_foldlM {p : Identity} {entries : List (Dependency × ProductFilter)}
    {d d' : Discovery} (h : entries.foldlM (declare c mirrors (some p)) d = .ok d') :
    Grows d d' ∧ ∀ entry ∈ entries, Met c d' p (mirrors.identify entry.1.origin) entry.2 := by
  refine Except.foldlM_forall Grows
    (fun (entry : Dependency × ProductFilter) e =>
      Met c e p (mirrors.identify entry.1.origin) entry.2) .refl
    (fun _ _ _ hgrows hgrows' => hgrows.trans hgrows') (fun _ _ _ hmet hgrows => hmet.grows hgrows)
    (fun entry _ e e' hdeclare => ?_) h
  have hdeclared := declare_ok hdeclare
  exact ⟨hdeclared.grows, hdeclared.met⟩

/-- Visits forget nothing. -/
theorem Proceeds.grows {d d' : Discovery} (h : Proceeds c mirrors traits d d') : Grows d d' := by
  induction h with
  | refl => exact .refl d
  | tail _ hstep ih =>
    obtain ⟨id, queue, -, hfold⟩ := visitNext_folds hstep
    -- Taking a package from the queue concerns nothing else.
    obtain ⟨hedges, hunloaded, horder, hfilters⟩ := (met_foldlM hfold).1
    exact ih.trans ⟨hedges, hunloaded, horder, hfilters⟩

/-- What a package required when it was visited has been noted. -/
theorem Visited.met {start d : Discovery} {p : Identity} {f : ProductFilter}
    (h : Visited c mirrors traits start d p f) :
    ∀ entry ∈ c.requirements mirrors traits p f,
      Met c d p (mirrors.identify entry.1.origin) entry.2 := by
  obtain ⟨before, after, hvisit⟩ := h
  have hfold := hvisit.folds
  intro entry hentry
  have hmet := (met_foldlM hfold).2 entry hentry
  exact hmet.grows hvisit.goesOn.grows

/-- Visits keep what is known sound. -/
theorem Proceeds.sound {inputs : List Identity} {start d : Discovery}
    (hstart : Sound c inputs start) (h : Proceeds c mirrors traits start d) :
    Sound c inputs d := by
  induction h with
  | refl => exact hstart
  | tail _ hstep ih => exact ih.visitNext hstep

/-- A package that has been visited has been met, and its filter has only grown since. -/
theorem Visited.within {inputs : List Identity} {start d : Discovery}
    (hstart : Sound c inputs start) {p : Identity} {f : ProductFilter}
    (h : Visited c mirrors traits start d p f) : p ∈ d.order ∧ f.Within (d.filterOf p) := by
  obtain ⟨before, after, hvisit⟩ := h
  have hgrows : Grows before d :=
    Proceeds.grows (Relation.ReflTransGen.head hvisit.visit hvisit.goesOn)
  have hsound := hvisit.reached.sound hstart
  have hmet : p ∈ before.order := hsound.queued p (List.mem_of_mem_head? hvisit.next)
  -- It had a filter when it was visited, since it had been met.
  obtain ⟨f', hf'⟩ := Option.isSome_iff_exists.1 ((hsound.entered p).2 hmet)
  have hsame : f' = f := by
    rw [← hvisit.filter, filterOf, SortedMap.getD, hf']
    rfl
  obtain ⟨f'', hf'', hwithin⟩ := hgrows.filters p f' hf'
  refine ⟨hgrows.order p hmet, ?_⟩
  rw [filterOf, SortedMap.getD, hf'', ← hsame]
  exact hwithin

/-! ### Where notes come from -/

/-- It has been noted that a package depends on another one, which may be missing. -/
def HasNoted (d : Discovery) (p q : Identity) : Prop := q ∈ d.edgesOf p ∨ q ∈ d.unloadedOf p

/-- Everything that is noted for a package was required when the package was visited. -/
def NotedByVisits (c : Catalog) (mirrors : Mirrors) (traits : EnabledTraits)
    (start d : Discovery) : Prop :=
  ∀ p q, d.HasNoted p q → ∃ f, Visited c mirrors traits start d p f ∧
    ∃ entry ∈ c.requirements mirrors traits p f, mirrors.identify entry.1.origin = q

/-- A declaration notes nothing but the declared package, for the one that declares it. -/
theorem Declared.noted {parent : Option Identity} {id : Identity} {f : ProductFilter}
    {d d' : Discovery} (h : Declared c parent id f d d') {p q : Identity} (hq : d'.HasNoted p q) :
    d.HasNoted p q ∨ parent = some p ∧ q = id := by
  rw [HasNoted, h.edges p, h.unloaded p] at hq
  -- The package is either at hand or missing, so at most one of the two lists has changed.
  rcases hq with hq | hq
  · split at hq
    · next hcond =>
      exact ((mem_addNew _ _ _).1 hq).imp .inl fun heq => ⟨hcond.1, heq⟩
    · exact .inl (.inl hq)
  · split at hq
    · next hcond =>
      exact ((mem_addNew _ _ _).1 hq).imp .inr fun heq => ⟨hcond.1, heq⟩
    · exact .inl (.inr hq)

/-- What the declarations of a visit note is among them. -/
theorem noted_foldlM {p : Identity} {entries : List (Dependency × ProductFilter)}
    {d d' : Discovery} (h : entries.foldlM (declare c mirrors (some p)) d = .ok d') :
    ∀ p' q, d'.HasNoted p' q → d.HasNoted p' q ∨
      p' = p ∧ ∃ entry ∈ entries, mirrors.identify entry.1.origin = q := by
  refine Except.foldlM_inv (fun e : Discovery => ∀ p' q, e.HasNoted p' q →
    d.HasNoted p' q ∨ p' = p ∧ ∃ entry ∈ entries, mirrors.identify entry.1.origin = q)
    (fun entry hentry e e' he hdeclare => ?_) (fun _ _ hq => .inl hq) h
  intro p' q hq
  rcases (declare_ok hdeclare).noted hq with hq | ⟨hp, rfl⟩
  · exact he p' q hq
  · exact .inr ⟨(Option.some.inj hp).symm, entry, hentry, rfl⟩

/-- A visit notes what its package requires. -/
theorem NotedByVisits.visitNext {start d d' : Discovery}
    (hd : NotedByVisits c mirrors traits start d) (hreached : Proceeds c mirrors traits start d)
    (hstep : visitNext c mirrors traits d = .next d') :
    NotedByVisits c mirrors traits start d' := by
  obtain ⟨id, queue, hqueue, hfold⟩ := visitNext_folds hstep
  intro p q hq
  rcases noted_foldlM hfold p q hq with hq | ⟨rfl, hrequired⟩
  · obtain ⟨f, hvisited, hrequired⟩ := hd p q hq
    exact ⟨f, hvisited.tail hstep, hrequired⟩
  · exact ⟨d.filterOf p, visited_visitNext hreached hqueue hstep, hrequired⟩

/-- If nothing is noted at first, only visits note it. -/
theorem Proceeds.notedByVisits {start d : Discovery} (hstart : ∀ p q, ¬ start.HasNoted p q)
    (h : Proceeds c mirrors traits start d) : NotedByVisits c mirrors traits start d := by
  induction h with
  | refl => exact fun p q hq => absurd hq (hstart p q)
  | tail hreached hstep ih => exact ih.visitNext hreached hstep

end Discovery

section
variable {c : Catalog} {mirrors : Mirrors} {traits : EnabledTraits} {extra : List Dependency}
  {filter : ProductFilter} {start d : Discovery}

/-- When discovery has ended, everything has been noted that is required of a package for the filter
that it has in the end. -/
theorem Catalog.discover_closed (h : c.discover mirrors traits extra filter = .ok d)
    (p : Identity) (hp : p ∈ d.order) : Discovery.Satisfied c mirrors traits d p := by
  obtain ⟨start, -, hvisited⟩ := Catalog.discover_lastVisit h hp
  have hmet := hvisited.met
  intro m hm entry hentry
  rw [Catalog.requirements, hm] at hmet
  exact hmet entry hentry

/-- Roots and extra dependencies note nothing for any package. -/
theorem Catalog.entered_notes (h : c.entered mirrors extra filter = .ok start) :
    ∀ p q, ¬ start.HasNoted p q := by
  refine Except.foldlM_inv (fun e : Discovery => ∀ p q, ¬ e.HasNoted p q)
    (fun dep _ e e' he (hstep : Discovery.enterExtra c mirrors e dep = .ok e') => ?_) ?_ h
  · obtain ⟨e₁, hdeclared, rfl⟩ := Discovery.enterExtra_ok hstep
    intro p q hq
    exact he p q ((hdeclared.noted hq).resolve_right fun hnone => nomatch hnone.1)
  · refine List.foldlRecOn c.roots (Discovery.enterRoot c filter)
      (motive := fun e : Discovery => ∀ p q, ¬ e.HasNoted p q) (fun p q hq => ?_)
      fun _ he _ _ => he
    rcases hq with hq | hq <;> exact nomatch hq

/-- What discovery has noted for a package in the end was required when the package was visited. -/
theorem Catalog.exists_visit_of_noted (h : c.discover mirrors traits extra filter = .ok d)
    {p q : Identity} (hq : d.HasNoted p q) :
    ∃ start f, c.entered mirrors extra filter = .ok start ∧
      Discovery.Visited c mirrors traits start d p f ∧
      ∃ entry ∈ c.requirements mirrors traits p f, mirrors.identify entry.1.origin = q := by
  obtain ⟨start, hstart, hproceeds, -⟩ := Catalog.discover_proceeds h
  obtain ⟨f, hvisited, hrequired⟩ :=
    hproceeds.notedByVisits (Catalog.entered_notes hstart) p q hq
  exact ⟨start, f, hstart, hvisited, hrequired⟩

/-- When roots and extra dependencies have been entered, the filter of every root has the one that
the roots were entered with. -/
theorem Catalog.entered_rootFilter (h : c.entered mirrors extra filter = .ok start)
    {id : Identity} (hid : id ∈ c.roots) :
    ∃ f, SortedMap.get? start.filters id = some f ∧ filter.Within f := by
  refine Except.foldlM_inv
    (fun e : Discovery => ∃ f, SortedMap.get? e.filters id = some f ∧ filter.Within f)
    (fun dep _ e e' ⟨f, hf, hwithin⟩
      (hstep : Discovery.enterExtra c mirrors e dep = .ok e') => ?_) ?_ h
  · obtain ⟨e₁, hdeclared, rfl⟩ := Discovery.enterExtra_ok hstep
    obtain ⟨f', hf', hwithin'⟩ := hdeclared.grows.filters id f hf
    exact ⟨f', hf', hwithin.trans hwithin'⟩
  · exact ⟨filter, Discovery.filters_enterRoots c filter hid Discovery.empty, .refl filter⟩

/-- Whenever a root was visited, it was for a filter that has the one of the roots. -/
theorem Catalog.rootFilter_within (hstart : c.entered mirrors extra filter = .ok start)
    {id : Identity} (hid : id ∈ c.roots) {f : ProductFilter}
    (h : Discovery.Visited c mirrors traits start d id f) : filter.Within f := by
  obtain ⟨before, after, hvisit⟩ := h
  obtain ⟨f₀, hf₀, hwithin⟩ := Catalog.entered_rootFilter hstart hid
  -- Filters only grow from the start to the visit.
  obtain ⟨f', hf', hwithin'⟩ := hvisit.reached.grows.filters id f₀ hf₀
  have hsame : f' = f := by
    rw [← hvisit.filter, Discovery.filterOf, SortedMap.getD, hf']
    rfl
  exact hwithin.trans (hsame ▸ hwithin')

end

end ModuleGraph
