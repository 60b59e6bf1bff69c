import ModuleGraph.Proofs.Discovery.Declare
import ModuleGraph.Proofs.Discovery.Filters
import ModuleGraph.Proofs.Requirements.Exact
import Mathlib.Algebra.Order.BigOperators.Group.List
import Mathlib.Algebra.Order.Ring.Nat

/-!
# Discovery ends

A package is visited again only when its filter has grown, and filters hold names of products that
are referred to, or names of the filter for the roots.  So the slack of all filters and the length
of the queue bound the visits that are still to come, and the bound that discovery is given
suffices.

## Key results

- `Declared.queues`: a package is put in the queue when it is new or its filter has grown
- `pending_visitNext`: with every visit fewer are to come
- `Catalog.entered_ends`: the bound on the visits suffices
- `Catalog.discover_induct`: what every step keeps holds when discovery has ended
-/

namespace ModuleGraph

/-- Some manifest refers to a product of a name. -/
def Catalog.NamesProduct (c : Catalog) (name : String) : Prop :=
  ∃ id m, c.manifest? id = some m ∧ ∃ d ∈ m.references,
    (∃ package, m.RefersToProduct d package) ∧ d.name = name

namespace Discovery

/-- The names that filters may hold: those of products that manifests refer to, and those of the
filter for the roots. -/
def stock (c : Catalog) (filter : ProductFilter) : List String :=
  (c.manifests.toList.flatMap fun entry =>
      (entry.2.references.filter fun d => (entry.2.referredPackage? d).isSome).map (·.name)) ++
    match filter with
    | .everything => []
    | .only names => names.toList

/-- All filters hold names of the stock. -/
def Drawn (c : Catalog) (filter : ProductFilter) (d : Discovery) : Prop :=
  ∀ id f, SortedMap.get? d.filters id = some f → f.DrawsOn (stock c filter)

/-- The visits that may still come: those of the queue, and one whenever a filter grows. -/
def pending (c : Catalog) (filter : ProductFilter) (d : Discovery) : Nat :=
  d.queue.length + (c.manifests.toList.map fun entry =>
    ProductFilter.slack (stock c filter).length (SortedMap.get? d.filters entry.1)).sum

/-- There are not more names than the bound allows for. -/
theorem le_visitBound (c : Catalog) (filter : ProductFilter) :
    (c.manifests.size + c.roots.length) * ((stock c filter).length + 3) + 1 ≤
      visitBound c filter := by
  -- Not every reference is to a product, so there are not more names than references.
  have hrefs : (c.manifests.toList.flatMap fun entry =>
      (entry.2.references.filter fun d => (entry.2.referredPackage? d).isSome).map
        (·.name)).length ≤ c.referenceCount := by
    unfold Catalog.referenceCount
    rw [List.length_flatMap, List.length_flatMap]
    refine List.sum_le_sum fun entry _ => ?_
    rw [List.length_map]
    exact List.length_filter_le _ _
  unfold visitBound stock
  rw [List.length_append]
  cases filter with
  | everything => exact Nat.succ_le_succ (Nat.mul_le_mul_left _ (by simpa using hrefs))
  | only names =>
    refine Nat.succ_le_succ (Nat.mul_le_mul_left _ ?_)
    have hsize : names.toList.length = names.size := rfl
    dsimp only
    omega

/-- A name of the stock is that of a product that some manifest refers to, or one of the filter for
the roots. -/
theorem mem_stock {c : Catalog} {filter : ProductFilter} {name : String} :
    name ∈ stock c filter ↔
      c.NamesProduct name ∨ ∃ names, filter = .only names ∧ name ∈ names.toList := by
  unfold stock Catalog.NamesProduct
  rw [List.mem_append, List.mem_flatMap]
  refine or_congr ?_ ?_
  · simp only [List.mem_map, List.mem_filter, and_assoc, Manifest.referredPackage?_isSome,
      Catalog.manifest?, SortedMap.get?_eq_some_iff, Prod.exists]
  · cases filter <;> simp

/-- The filter of the roots is of the stock. -/
theorem drawsOn_filter (c : Catalog) (filter : ProductFilter) :
    filter.DrawsOn (stock c filter) := by
  cases filter with
  | everything => trivial
  | only names => exact fun x hx => List.mem_append_right _ hx

/-- What a manifest requires of a package is of the stock. -/
theorem drawsOn_required {c : Catalog} {filter filter' : ProductFilter} {mirrors : Mirrors}
    {traits : Names} {id : Identity} {m : Manifest} (hm : c.manifest? id = some m)
    {dep : Dependency} {f : ProductFilter}
    (h : (dep, f) ∈ m.requiredDependencies mirrors.identify filter' traits) :
    f.DrawsOn (stock c filter) := by
  obtain ⟨i, -, hf⟩ := (m.mem_requiredDependencies ..).1 h
  cases filter' with
  | everything =>
    rw [Manifest.eq_everything_of_requirement? hf]
    trivial
  | only products =>
    obtain ⟨names, rfl, hnames⟩ := Manifest.eq_only_of_requirement? hf
    intro name hname
    -- A name is required since some reference of the manifest has it.
    obtain ⟨d, hd, hrefers, hsame⟩ := ((hnames name).1 hname).exists_refers
    have hd' : d ∈ m.references := Manifest.mem_references_of_required hd
    exact mem_stock.2 (.inl ⟨id, m, hm, d, hd', hrefers, hsame⟩)

/-- Setting a filter of the stock keeps all filters so. -/
theorem Drawn.put {c : Catalog} {filter : ProductFilter} {d d' : Discovery}
    (hd : Drawn c filter d) {id : Identity} {f : ProductFilter} (hf : f.DrawsOn (stock c filter))
    (hfilters : d'.filters = SortedMap.put d.filters id f) : Drawn c filter d' := by
  intro q g hg
  rw [hfilters] at hg
  by_cases heq : q = id
  · subst heq
    rw [SortedMap.get?_put_self] at hg
    cases hg
    exact hf
  · rw [SortedMap.get?_put_of_ne _ _ heq] at hg
    exact hd q g hg

/-- What becomes of the queue when `filter` is needed of a package: it is put in the queue if it has
been met for the first time or if joining the filter to its own one gives another filter, and only
then. -/
inductive Queues (c : Catalog) (id : Identity) (filter : ProductFilter) (d d' : Discovery) : Prop
  | kept (hqueue : d'.queue = d.queue) (horder : d'.order = d.order)
      (hfilters : ∀ p, SortedMap.get? d'.filters p = SortedMap.get? d.filters p)
  | first (hhas : c.has id = true) (hget : SortedMap.get? d.filters id = none)
      (hqueue : d'.queue = d.queue ++ [id]) (horder : d'.order = d.order ++ [id])
      (hfilters : d'.filters = SortedMap.put d.filters id filter)
  | grown (old : ProductFilter) (hhas : c.has id = true)
      (hget : SortedMap.get? d.filters id = some old) (hgrown : old.union filter ≠ old)
      (hqueue : d'.queue = d.queue ++ [id]) (horder : d'.order = d.order)
      (hfilters : d'.filters = SortedMap.put d.filters id (old.union filter))

/-- A declaration puts its package in the queue if that is new or its filter grows. -/
theorem Declared.queues {c : Catalog} {parent : Option Identity} {id : Identity}
    {f : ProductFilter} {d d' : Discovery} (h : Declared c parent id f d d') :
    Queues c id f d d' := by
  cases h.needed with
  | absent _ hfilters horder hqueue => exact .kept hqueue horder fun p => by rw [hfilters]
  | first hhas hget hfilters horder hqueue => exact .first hhas hget hqueue horder hfilters
  | again old hhas hget hfilters horder hqueue =>
    cases hgrows : old.growsBy f with
    | true =>
      rw [hgrows, if_pos rfl] at hqueue
      exact .grown old hhas hget (ProductFilter.growsBy_iff.1 hgrows) hqueue horder hfilters
    | false =>
      rw [hgrows] at hqueue
      refine .kept hqueue horder fun p => ?_
      -- The filter stays what it is.
      rw [hfilters, ProductFilter.union_eq_of_not_growsBy hgrows]
      by_cases heq : p = id
      · rw [heq, hget, SortedMap.get?_put_self]
      · rw [SortedMap.get?_put_of_ne _ _ heq]

/-- A package is put in the queue only with a filter that leaves less slack than it had before. -/
theorem Queues.slack_lt {c : Catalog} {filter f : ProductFilter} {id : Identity} {d d' : Discovery}
    (h : Queues c id f d d') (hd : Drawn c filter d) (hf : f.DrawsOn (stock c filter)) :
    (d'.queue = d.queue ∧ ∀ p, SortedMap.get? d'.filters p = SortedMap.get? d.filters p) ∨
      ∃ g, c.has id = true ∧ g.DrawsOn (stock c filter) ∧ d'.queue = d.queue ++ [id] ∧
        d'.filters = SortedMap.put d.filters id g ∧
        ProductFilter.slack (stock c filter).length (some g) <
          ProductFilter.slack (stock c filter).length (SortedMap.get? d.filters id) := by
  cases h with
  | kept hqueue _ hfilters => exact .inl ⟨hqueue, hfilters⟩
  | first hhas hget hqueue _ hfilters =>
    refine .inr ⟨f, hhas, hf, hqueue, hfilters, ?_⟩
    rw [hget]
    exact ProductFilter.slack_some_lt _ f
  -- The filter grows within the stock, so less is left of it.
  | grown old hhas hget hgrown hqueue _ hfilters =>
    have hold : old.DrawsOn (stock c filter) := hd id old hget
    refine .inr ⟨_, hhas, hold.union hf, hqueue, hfilters, ?_⟩
    rw [hget]
    exact ProductFilter.slack_union_lt hold hf (ProductFilter.growsBy_iff.2 hgrown)

/-- Needing something of the stock keeps all filters so. -/
theorem Queues.drawn {c : Catalog} {filter f : ProductFilter} {id : Identity} {d d' : Discovery}
    (h : Queues c id f d d') (hd : Drawn c filter d) (hf : f.DrawsOn (stock c filter)) :
    Drawn c filter d' := by
  rcases h.slack_lt hd hf with ⟨-, hfilters⟩ | ⟨g, -, hg, -, hfilters, -⟩
  · exact fun p g hg => hd p g (hfilters p ▸ hg)
  · exact hd.put hg hfilters

/-- A measure is never raised by what is needed, as long as all filters are of the stock. -/
def NeverRaised (c : Catalog) (filter : ProductFilter) (measure : Discovery → Nat) : Prop :=
  ∀ id f d d', Queues c id f d d' → Drawn c filter d → f.DrawsOn (stock c filter) →
    measure d' ≤ measure d

/-- Needing something leaves no more visits: the package takes one place in the queue and at least
one from its slack. -/
theorem neverRaised_pending (c : Catalog) (filter : ProductFilter) :
    NeverRaised c filter (pending c filter) := by
  intro id f d d' h hd hf
  rcases h.slack_lt hd hf with ⟨hqueue, hfilters⟩ | ⟨g, hhas, -, hqueue, hfilters, hlt⟩
  · -- Nothing is queued.
    unfold pending
    simp only [hqueue, hfilters]
    exact le_rfl
  · -- `id` is queued: of the slacks that are summed up, only its own changes, and that gets less.
    obtain ⟨m, hm⟩ := Catalog.has_iff.1 hhas
    have hsum := List.sum_lt_sum (l := c.manifests.toList)
      (fun entry => ProductFilter.slack (stock c filter).length (SortedMap.get? d'.filters entry.1))
      (fun entry => ProductFilter.slack (stock c filter).length (SortedMap.get? d.filters entry.1))
      (fun entry _ => by
        rw [hfilters]
        by_cases heq : entry.1 = id
        · rw [heq, SortedMap.get?_put_self]
          exact hlt.le
        · rw [SortedMap.get?_put_of_ne _ _ heq])
      ⟨(id, m), SortedMap.get?_eq_some_iff.1 hm, by rwa [hfilters, SortedMap.get?_put_self]⟩
    unfold pending
    rw [hqueue, List.length_append, List.length_singleton]
    omega

/-- A visit takes a package from the queue, and what it declares raises no measure. -/
theorem NeverRaised.visitNext {c : Catalog} {mirrors : Mirrors} {traits : EnabledTraits}
    {filter : ProductFilter} {measure : Discovery → Nat} (hmeasure : NeverRaised c filter measure)
    {d d' : Discovery} (hd : Drawn c filter d) (h : visitNext c mirrors traits d = .next d') :
    ∃ id queue, d.queue = id :: queue ∧ Drawn c filter d' ∧
      measure d' ≤ measure { d with queue } := by
  obtain ⟨id, queue, hqueue, ⟨-, rfl⟩ | ⟨m, hm, hfold⟩⟩ := visitNext_next h
  · exact ⟨id, queue, hqueue, hd, le_rfl⟩
  · refine ⟨id, queue, hqueue, ?_⟩
    refine Except.foldlM_inv
      (fun e => Drawn c filter e ∧ measure e ≤ measure { d with queue })
      (fun entry hentry e e' he (hdeclare : declare c mirrors (some id) e entry = .ok e') => ?_)
      (show Drawn c filter { d with queue } ∧ _ from ⟨hd, le_rfl⟩) hfold
    have hqueues := (declare_ok hdeclare).queues
    have hdraws : entry.2.DrawsOn (stock c filter) := drawsOn_required hm hentry
    exact ⟨hqueues.drawn he.1 hdraws, (hmeasure _ _ _ _ hqueues he.1 hdraws).trans he.2⟩

/-- With every visit fewer are to come. -/
theorem pending_visitNext {c : Catalog} {mirrors : Mirrors} {traits : EnabledTraits}
    {filter : ProductFilter} {d d' : Discovery} (hd : Drawn c filter d)
    (h : visitNext c mirrors traits d = .next d') :
    Drawn c filter d' ∧ pending c filter d' < pending c filter d := by
  obtain ⟨id, queue, hqueue, hdrawn, hle⟩ := (neverRaised_pending c filter).visitNext hd h
  have hpopped : pending c filter { d with queue } < pending c filter d := by
    simp only [pending, hqueue, List.length_cons]
    omega
  exact ⟨hdrawn, hle.trans_lt hpopped⟩

/-- However much slack there is, this much bounds it. -/
theorem slack_le (bound : Nat) (f : Option ProductFilter) :
    ProductFilter.slack bound f ≤ bound + 3 := by
  match f with
  | none => exact le_rfl
  | some .everything => simp [ProductFilter.slack]
  | some (.only names) => simp only [ProductFilter.slack]; omega

/-- The visits that may come are bounded by the queue and by the number of packages. -/
theorem pending_le (c : Catalog) (filter : ProductFilter) (d : Discovery) :
    pending c filter d ≤ d.queue.length + c.manifests.size * ((stock c filter).length + 3) := by
  have hsum := List.sum_le_card_nsmul (c.manifests.toList.map fun entry =>
    ProductFilter.slack (stock c filter).length (SortedMap.get? d.filters entry.1))
    ((stock c filter).length + 3) (by
      intro x hx
      obtain ⟨entry, -, rfl⟩ := List.mem_map.1 hx
      exact slack_le _ _)
  rw [List.length_map] at hsum
  exact Nat.add_le_add_left hsum _

/-- When the roots have been entered, all of them have been met and are in the queue. -/
theorem enterRoots_fields (c : Catalog) (filter : ProductFilter) (roots : List Identity)
    (d : Discovery) :
    (roots.foldl (enterRoot c filter) d).queue = d.queue ++ roots ∧
      (roots.foldl (enterRoot c filter) d).order = d.order ++ roots := by
  induction roots generalizing d with
  | nil => simp
  | cons id roots ih =>
    obtain ⟨hqueue, horder⟩ := ih (d.enterRoot c filter id)
    rw [List.foldl_cons, hqueue, horder]
    simp [enterRoot]

/-- When the roots have been entered, each of them has the filter of the roots. -/
theorem filters_enterRoots (c : Catalog) (filter : ProductFilter) {roots : List Identity}
    {id : Identity} (hid : id ∈ roots) (d : Discovery) :
    SortedMap.get? (roots.foldl (enterRoot c filter) d).filters id = some filter := by
  -- Induction from the end: what the last root has been given is not changed after that.
  induction roots using List.reverseRecOn with
  | nil => exact nomatch hid
  | append_singleton roots root ih =>
    rw [List.foldl_append]
    show SortedMap.get?
        (SortedMap.put (roots.foldl (enterRoot c filter) d).filters root filter) id =
      some filter
    by_cases heq : id = root
    · rw [heq, SortedMap.get?_put_self]
    · rw [SortedMap.get?_put_of_ne _ _ heq]
      exact ih ((List.mem_append.1 hid).resolve_right fun h => heq (List.mem_singleton.1 h))

/-- When the roots have been entered, all filters are of the stock. -/
theorem drawn_enterRoots (c : Catalog) (filter : ProductFilter) (roots : List Identity)
    {d : Discovery} (hd : Drawn c filter d) :
    Drawn c filter (roots.foldl (enterRoot c filter) d) := by
  induction roots generalizing d with
  | nil => exact hd
  | cons id roots ih => exact ih (hd.put (drawsOn_filter c filter) rfl)

/-- When roots and extra dependencies have been entered, all filters are of the stock, and the extra
dependencies have raised no measure. -/
theorem NeverRaised.entered {c : Catalog} {mirrors : Mirrors} {filter : ProductFilter}
    {measure : Discovery → Nat} (hmeasure : NeverRaised c filter measure)
    (hextra : ∀ d extra, measure { d with extra } = measure d) {extra : List Dependency}
    {entered : Discovery}
    (h : extra.foldlM (enterExtra c mirrors) (c.roots.foldl (enterRoot c filter) empty) =
      .ok entered) :
    Drawn c filter entered ∧
      measure entered ≤ measure (c.roots.foldl (enterRoot c filter) empty) := by
  have hroots : Drawn c filter (c.roots.foldl (enterRoot c filter) empty) :=
    drawn_enterRoots c filter c.roots fun _ _ hf => nomatch hf
  refine Except.foldlM_inv
    (fun e => Drawn c filter e ∧
      measure e ≤ measure (c.roots.foldl (enterRoot c filter) empty))
    (fun dep _ e e' he (hstep : enterExtra c mirrors e dep = .ok e') => ?_) ⟨hroots, le_rfl⟩ h
  obtain ⟨e₁, hdeclared, rfl⟩ := enterExtra_ok hstep
  have hqueues := hdeclared.queues
  rw [hextra]
  exact ⟨hqueues.drawn he.1 trivial, (hmeasure _ _ _ _ hqueues he.1 trivial).trans he.2⟩

end Discovery

/-- When roots and extra dependencies have been entered, the visits that may come are not more than
the bound. -/
theorem Catalog.entered_pending {c : Catalog} {mirrors : Mirrors} {extra : List Dependency}
    {filter : ProductFilter} {entered : Discovery}
    (h : extra.foldlM (Discovery.enterExtra c mirrors)
      (c.roots.foldl (Discovery.enterRoot c filter) Discovery.empty) = .ok entered) :
    Discovery.Drawn c filter entered ∧
      Discovery.pending c filter entered < Discovery.visitBound c filter := by
  obtain ⟨hdrawn, hle⟩ :=
    (Discovery.neverRaised_pending c filter).entered (fun _ _ => rfl) h
  refine ⟨hdrawn, ?_⟩
  have hstart := Discovery.pending_le c filter
    (c.roots.foldl (Discovery.enterRoot c filter) Discovery.empty)
  -- The queue holds the roots at first.
  have hqueue : Discovery.empty.queue = [] := rfl
  rw [(Discovery.enterRoots_fields ..).1, hqueue, List.nil_append] at hstart
  have hbound := Discovery.le_visitBound c filter
  have hpos : c.roots.length ≤ c.roots.length * ((Discovery.stock c filter).length + 3) :=
    Nat.le_mul_of_pos_right _ (by omega)
  rw [Nat.add_mul] at hbound
  omega

/-- When roots and extra dependencies have been entered, the bound on the visits suffices. -/
theorem Catalog.entered_ends {c : Catalog} {mirrors : Mirrors} (traits : EnabledTraits)
    {extra : List Dependency} {filter : ProductFilter} {entered : Discovery}
    (h : extra.foldlM (Discovery.enterExtra c mirrors)
      (c.roots.foldl (Discovery.enterRoot c filter) Discovery.empty) = .ok entered) :
    ∃ r, Loop.run (Discovery.visitNext c mirrors traits) (Discovery.visitBound c filter) entered =
      some r := by
  obtain ⟨hdrawn, hbound⟩ := Catalog.entered_pending h
  -- Filters are of the stock at every visit, so each one can grow only so often.
  have hends := Loop.run_isSome (Discovery.Drawn c filter) (Discovery.pending c filter)
    (fun e e' he (hstep : Discovery.visitNext c mirrors traits e = .next e') =>
      Discovery.pending_visitNext he hstep) hdrawn hbound
  exact Option.isSome_iff_exists.1 hends

/-- Discovery that succeeds has entered the roots and the extra dependencies, and has visited all
packages. -/
theorem Catalog.discover_ok {c : Catalog} {mirrors : Mirrors} {traits : EnabledTraits}
    {extra : List Dependency} {filter : ProductFilter} {d : Discovery}
    (h : c.discover mirrors traits extra filter = .ok d) :
    ∃ entered, extra.foldlM (Discovery.enterExtra c mirrors)
        (c.roots.foldl (Discovery.enterRoot c filter) Discovery.empty) = .ok entered ∧
      Loop.run (Discovery.visitNext c mirrors traits) (Discovery.visitBound c filter) entered =
        some (.ok d) := by
  unfold Catalog.discover at h
  obtain ⟨entered, hextra, h⟩ := Except.bind_eq_ok.1 h
  refine ⟨entered, hextra, ?_⟩
  obtain ⟨r, hr⟩ := Catalog.entered_ends traits hextra
  rw [hr, Option.getD_some] at h
  rw [hr, h]

/-- What holds when the roots have been entered, and is kept by every step, holds when discovery
has ended, and nothing is left to visit then. -/
theorem Catalog.discover_induct {c : Catalog} {mirrors : Mirrors} {traits : EnabledTraits}
    {extra : List Dependency} {filter : ProductFilter} {d : Discovery}
    (h : c.discover mirrors traits extra filter = .ok d) (inv : Discovery → Prop)
    (hroots : inv (c.roots.foldl (Discovery.enterRoot c filter) Discovery.empty))
    (hextra : ∀ dep ∈ extra, ∀ e e', inv e → e.enterExtra c mirrors dep = .ok e' → inv e')
    (hvisit : ∀ e e', inv e → e.visitNext c mirrors traits = .next e' → inv e') :
    inv d ∧ d.queue = [] := by
  obtain ⟨entered, hfold, hrun⟩ := Catalog.discover_ok h
  have hentered : inv entered := Except.foldlM_inv inv hextra hroots hfold
  refine Loop.run_post inv (fun r => ∀ e, r = .ok e → inv e ∧ e.queue = [])
    hvisit (fun e r he hstep e' hr => ?_) hentered hrun d rfl
  subst hr
  obtain ⟨hqueue, rfl⟩ := Discovery.visitNext_ok hstep
  exact ⟨he, hqueue⟩

end ModuleGraph
