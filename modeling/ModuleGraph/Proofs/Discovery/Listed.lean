import ModuleGraph.Proofs.Discovery.Locations

/-!
# Which packages discovery lists

A declaration lists its package as needed, unless that is a root or is listed already, and nothing
is taken from the list.  So in the end the list has the packages of all dependencies that have been
declared on the way, roots excepted: those beside the roots, and those that a package required at
one of its visits, which may have been for another filter than it has in the end.

## Key results

- `declare_required`: what a declaration adds to the list
- `Listing.visitNext`: the invariant of the list
- `Catalog.discover_listing`: what the list has when discovery has ended
-/

namespace ModuleGraph

namespace Discovery

/-- The package is a root, or it is listed as needed. -/
def RootOrListed (c : Catalog) (d : Discovery) (id : Identity) : Prop :=
  c.isRoot id = true ∨ ∃ r ∈ d.required, r.identity = id

/-- A dependency has been declared on the way from `start` to `d`: beside the roots, or by a package
when it was visited. -/
def DeclaredSoFar (c : Catalog) (mirrors : Mirrors) (traits : EnabledTraits)
    (extra : List Dependency) (start d : Discovery) (dep : Dependency) : Prop :=
  dep ∈ extra ∨ ∃ p f, Visited c mirrors traits start d p f ∧
    ∃ g, (dep, g) ∈ c.requirements mirrors traits p f

/-- The list has every package once and no root, its entries are some of the declared dependencies,
and no package has been met that is not listed, but for roots. -/
structure Listing (c : Catalog) (mirrors : Mirrors) (declared : Dependency → Prop) (d : Discovery) :
    Prop where
  once : (d.required.map (·.identity)).Nodup
  notRoot : ∀ r ∈ d.required, c.isRoot r.identity = false
  declared : ∀ r ∈ d.required, ∃ dep, declared dep ∧ r = ⟨mirrors.identify dep.origin, dep.origin⟩
  met : ∀ id ∈ d.order, d.RootOrListed c id

variable {c : Catalog} {mirrors : Mirrors} {traits : EnabledTraits} {extra : List Dependency}
  {declared : Dependency → Prop} {start d d' : Discovery}

/-! ### One declaration -/

/-- Entering a declaration lists its package at the end, unless it is a root or is listed. -/
theorem enterDeclaration_required (c : Catalog) (d : Discovery) (parent : Option Identity)
    (dep : Dependency) (id : Identity) :
    (d.enterDeclaration c parent dep id).required = d.required ∧ d.RootOrListed c id ∨
      (d.enterDeclaration c parent dep id).required = d.required ++ [⟨id, dep.origin⟩] ∧
        ¬ d.RootOrListed c id := by
  have hlisted : d.required.any (·.identity == id) = true ↔ ∃ r ∈ d.required, r.identity = id := by
    simp
  unfold enterDeclaration RootOrListed
  cases hroot : c.isRoot id with
  | true => exact .inl ⟨rfl, .inl rfl⟩
  | false =>
    -- Other packages are listed once.
    by_cases hany : d.required.any (·.identity == id) = true
    · exact .inl ⟨if_pos hany, .inr (hlisted.1 hany)⟩
    · refine .inr ⟨if_neg hany, ?_⟩
      rintro (hno | h)
      · exact nomatch hno
      · exact hany (hlisted.2 h)

/-- A declaration lists its package at the end, unless it is a root or is listed. -/
theorem declare_required {parent : Option Identity} {entry : Dependency × ProductFilter}
    (h : declare c mirrors parent d entry = .ok d') :
    d'.required = d.required ∧ d.RootOrListed c (mirrors.identify entry.1.origin) ∨
      d'.required = d.required ++ [⟨mirrors.identify entry.1.origin, entry.1.origin⟩] ∧
        ¬ d.RootOrListed c (mirrors.identify entry.1.origin) := by
  obtain ⟨dep, f⟩ := entry
  unfold declare at h
  obtain ⟨_, -, h⟩ := Except.bind_eq_ok.1 h
  obtain ⟨d₁, hname, h⟩ := Except.bind_eq_ok.1 h
  cases h
  obtain ⟨names, rfl⟩ := enterName_ok hname
  -- Edges and needs do not concern the list, and neither do names.
  obtain ⟨-, -, hrequired⟩ := enterEdge_need_entries c
    (enterDeclaration c { d with names } parent dep (mirrors.identify dep.origin)) parent
    (mirrors.identify dep.origin) f
  rw [hrequired]
  exact enterDeclaration_required c { d with names } parent dep (mirrors.identify dep.origin)

/-- What is listed stays so. -/
theorem RootOrListed.mono {id : Identity} (h : d.RootOrListed c id)
    (hkept : d.required ⊆ d'.required) : d'.RootOrListed c id :=
  h.imp_right fun ⟨r, hr, hid⟩ => ⟨r, hkept hr, hid⟩

/-- A declaration takes nothing from the list, and its package is listed then or is a root. -/
theorem rootOrListed_declare {parent : Option Identity} {entry : Dependency × ProductFilter}
    (h : declare c mirrors parent d entry = .ok d') :
    d.required ⊆ d'.required ∧ d'.RootOrListed c (mirrors.identify entry.1.origin) := by
  rw [RootOrListed]
  rcases declare_required h with ⟨hrequired, hcase⟩ | ⟨hrequired, -⟩
  · rw [hrequired]
    exact ⟨List.Subset.refl _, hcase⟩
  · rw [hrequired]
    exact ⟨List.subset_append_left _ _, .inr ⟨_, List.mem_append_right _ List.mem_cons_self, rfl⟩⟩

/-- A declaration of one of the dependencies keeps the invariant. -/
theorem Listing.declare {parent : Option Identity} {entry : Dependency × ProductFilter}
    (hd : Listing c mirrors declared d) (hdep : declared entry.1)
    (h : Discovery.declare c mirrors parent d entry = .ok d') : Listing c mirrors declared d' := by
  obtain ⟨hkept, hlisted⟩ := rootOrListed_declare h
  have hmet : ∀ id ∈ d'.order, d'.RootOrListed c id := by
    intro id hid
    have hold (hid : id ∈ d.order) : d'.RootOrListed c id := (hd.met id hid).mono hkept
    cases (declare_ok h).needed with
    | absent _ _ horder => exact hold (horder ▸ hid)
    | first _ _ _ horder =>
      -- The package that is met first is the one that is declared.
      rcases List.mem_append.1 (horder ▸ hid) with hid | hid
      · exact hold hid
      · exact List.mem_singleton.1 hid ▸ hlisted
    | again _ _ _ _ horder => exact hold (horder ▸ hid)
  rcases declare_required h with ⟨hrequired, -⟩ | ⟨hrequired, hnew⟩
  · refine ⟨?_, ?_, ?_, hmet⟩ <;> rw [hrequired]
    · exact hd.once
    · exact hd.notRoot
    · exact hd.declared
  · refine ⟨?_, fun r hr => ?_, fun r hr => ?_, hmet⟩
    · rw [hrequired, List.map_append, List.map_singleton]
      refine List.nodup_append.2 ⟨hd.once, List.nodup_singleton _, fun id hid id' hid' heq => ?_⟩
      obtain ⟨r, hr, hrid⟩ := List.mem_map.1 hid
      exact hnew (.inr ⟨r, hr, by rw [hrid, heq, List.mem_singleton.1 hid']⟩)
    · rcases List.mem_append.1 (hrequired ▸ hr) with hr | hr
      · exact hd.notRoot r hr
      · have hroot : c.isRoot (mirrors.identify entry.1.origin) = false :=
          Bool.eq_false_iff.2 fun hroot => hnew (.inl hroot)
        exact List.mem_singleton.1 hr ▸ hroot
    · rcases List.mem_append.1 (hrequired ▸ hr) with hr | hr
      · exact hd.declared r hr
      · exact ⟨entry.1, hdep, List.mem_singleton.1 hr⟩

/-! ### All steps -/

/-- With more declared dependencies, the list is still made of some of them. -/
theorem Listing.mono {declared' : Dependency → Prop} (hd : Listing c mirrors declared d)
    (hsub : ∀ dep, declared dep → declared' dep) : Listing c mirrors declared' d where
  once := hd.once
  notRoot := hd.notRoot
  declared := by
    intro r hr
    obtain ⟨dep, hdep, heq⟩ := hd.declared r hr
    exact ⟨dep, hsub dep hdep, heq⟩
  met := hd.met

/-- A visit takes nothing from the list, and lists all that its package requires then. -/
theorem rootOrListed_foldlM {p : Identity} {entries : List (Dependency × ProductFilter)}
    (h : entries.foldlM (Discovery.declare c mirrors (some p)) d = .ok d') :
    d.required ⊆ d'.required ∧
      ∀ entry ∈ entries, d'.RootOrListed c (mirrors.identify entry.1.origin) :=
  Except.foldlM_forall (fun e e' : Discovery => e.required ⊆ e'.required)
    (fun (entry : Dependency × ProductFilter) e =>
      e.RootOrListed c (mirrors.identify entry.1.origin))
    (fun _ => List.Subset.refl _) (fun _ _ _ hkept hkept' => List.Subset.trans hkept hkept')
    (fun _ _ _ hlisted hkept => hlisted.mono hkept)
    (fun _ _ _ _ hdeclare => rootOrListed_declare hdeclare) h

/-- Visits take nothing from the list. -/
theorem Proceeds.required (h : Proceeds c mirrors traits d d') : d.required ⊆ d'.required := by
  induction h with
  | refl => exact List.Subset.refl _
  | tail _ hstep ih =>
    obtain ⟨id, queue, -, hfold⟩ := visitNext_folds hstep
    exact List.Subset.trans ih (rootOrListed_foldlM hfold).1

/-- What a package required when it was visited is listed, but for roots. -/
theorem Visited.rootOrListed {p : Identity} {f : ProductFilter}
    (h : Visited c mirrors traits start d p f) : ∀ entry ∈ c.requirements mirrors traits p f,
      d.RootOrListed c (mirrors.identify entry.1.origin) := by
  obtain ⟨before, after, hvisit⟩ := h
  intro entry hentry
  have hlisted := (rootOrListed_foldlM hvisit.folds).2 entry hentry
  exact hlisted.mono hvisit.goesOn.required

/-- A visit keeps the invariant. -/
theorem Listing.visitNext (hd : Listing c mirrors (DeclaredSoFar c mirrors traits extra start d) d)
    (hreached : Proceeds c mirrors traits start d)
    (hstep : Discovery.visitNext c mirrors traits d = .next d') :
    Listing c mirrors (DeclaredSoFar c mirrors traits extra start d') d' := by
  obtain ⟨id, queue, hqueue, hfold⟩ := visitNext_folds hstep
  have hvisit := visited_visitNext hreached hqueue hstep
  have hold : Listing c mirrors (DeclaredSoFar c mirrors traits extra start d') d := by
    apply hd.mono
    rintro dep (hdep | ⟨p, f, hvisited, hrequired⟩)
    · exact .inl hdep
    · exact .inr ⟨p, f, hvisited.tail hstep, hrequired⟩
  have hstart :
      Listing c mirrors (DeclaredSoFar c mirrors traits extra start d') { d with queue } :=
    ⟨hold.once, hold.notRoot, hold.declared, hold.met⟩
  refine Except.foldlM_inv (Listing c mirrors _) (fun entry hentry e e' he hdeclare => ?_) hstart
    hfold
  exact he.declare (.inr ⟨id, _, hvisit, entry.2, hentry⟩) hdeclare

/-- Entering an extra dependency keeps the invariant. -/
theorem Listing.enterExtra {dep : Dependency} (hd : Listing c mirrors declared d)
    (hdep : declared dep) (h : Discovery.enterExtra c mirrors d dep = .ok d') :
    Listing c mirrors declared d' := by
  unfold Discovery.enterExtra at h
  obtain ⟨d₁, hdeclare, h⟩ := Except.bind_eq_ok.1 h
  cases h
  have hd₁ := hd.declare hdep hdeclare
  exact ⟨hd₁.once, hd₁.notRoot, hd₁.declared, hd₁.met⟩

/-- Entering an extra dependency takes nothing from the list, and its package is listed then or is a
root. -/
theorem rootOrListed_enterExtra {dep : Dependency} (h : enterExtra c mirrors d dep = .ok d') :
    d.required ⊆ d'.required ∧ d'.RootOrListed c (mirrors.identify dep.origin) := by
  unfold enterExtra at h
  obtain ⟨d₁, hdeclare, h⟩ := Except.bind_eq_ok.1 h
  cases h
  exact rootOrListed_declare hdeclare

/-- When the roots have been entered, they have been met and nothing is listed. -/
theorem listing_enterRoots (c : Catalog) (mirrors : Mirrors) (declared : Dependency → Prop)
    (filter : ProductFilter) :
    Listing c mirrors declared (c.roots.foldl (enterRoot c filter) empty) := by
  have hnone : (c.roots.foldl (enterRoot c filter) empty).required = [] :=
    List.foldlRecOn c.roots (enterRoot c filter)
      (motive := fun e : Discovery => e.required = []) rfl fun _ he _ _ => he
  obtain ⟨-, horder⟩ := enterRoots_fields c filter c.roots empty
  have horder : (c.roots.foldl (enterRoot c filter) empty).order = c.roots := horder
  refine ⟨?_, ?_, ?_, fun id hid => ?_⟩
  · rw [hnone]
    exact .nil
  · simp [hnone]
  · simp [hnone]
  · rw [horder] at hid
    exact .inl (List.contains_iff_mem.2 hid)

end Discovery

section
variable {c : Catalog} {mirrors : Mirrors} {traits : EnabledTraits} {extra : List Dependency}
  {filter : ProductFilter} {start d : Discovery}

/-- When roots and extra dependencies have been entered, the extra ones are listed, but for roots,
and no others. -/
theorem Catalog.entered_listing (h : c.entered mirrors extra filter = .ok start) :
    Discovery.Listing c mirrors (· ∈ extra) start ∧
      ∀ dep ∈ extra, start.RootOrListed c (mirrors.identify dep.origin) := by
  constructor
  · exact Except.foldlM_inv (Discovery.Listing c mirrors (· ∈ extra))
      (fun dep hdep e e' he hstep => he.enterExtra hdep hstep)
      (Discovery.listing_enterRoots c mirrors _ filter) h
  · have hentered := Except.foldlM_forall (fun e e' : Discovery => e.required ⊆ e'.required)
      (fun (dep : Dependency) e => e.RootOrListed c (mirrors.identify dep.origin))
      (fun _ => List.Subset.refl _) (fun _ _ _ hkept hkept' => List.Subset.trans hkept hkept')
      (fun _ _ _ hlisted hkept => hlisted.mono hkept)
      (fun _ _ _ _ hstep => Discovery.rootOrListed_enterExtra hstep) h
    exact hentered.2

/-- Visits that begin when roots and extra dependencies have been entered keep the invariant. -/
theorem Discovery.Proceeds.listing (hstart : c.entered mirrors extra filter = .ok start)
    (h : Discovery.Proceeds c mirrors traits start d) :
    Discovery.Listing c mirrors (Discovery.DeclaredSoFar c mirrors traits extra start d) d := by
  induction h with
  | refl => exact (Catalog.entered_listing hstart).1.mono fun _ hdep => .inl hdep
  | tail hreached hstep ih => exact ih.visitNext hreached hstep

/-- When discovery has ended, the packages of all dependencies that have been declared are listed,
but for roots, once each and no others. -/
theorem Catalog.discover_listing (h : c.discover mirrors traits extra filter = .ok d) :
    ∃ start, c.entered mirrors extra filter = .ok start ∧
      Discovery.Listing c mirrors (Discovery.DeclaredSoFar c mirrors traits extra start d) d ∧
      ∀ dep, Discovery.DeclaredSoFar c mirrors traits extra start d dep →
        d.RootOrListed c (mirrors.identify dep.origin) := by
  obtain ⟨start, hstart, hproceeds, -⟩ := Catalog.discover_proceeds h
  refine ⟨start, hstart, hproceeds.listing hstart, ?_⟩
  rintro dep (hdep | ⟨p, f, hvisited, g, hrequired⟩)
  · have hlisted := (Catalog.entered_listing hstart).2 dep hdep
    exact hlisted.mono hproceeds.required
  · exact hvisited.rootOrListed (dep, g) hrequired

end

end ModuleGraph
