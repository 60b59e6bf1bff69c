import ModuleGraph.Proofs.Discovery.Exact
import ModuleGraph.Proofs.Loop

/-!
# How often a package is visited

The bound that discovery is given on its visits has no part in what it does: `Catalog.DiscoverEnds`
leaves it out, and the visits end all the same.  They do because a package comes back into the queue
only with a filter that has become another one, and all filters are made of finitely many names.
What is left of a package's places in the queue and of the growth of its filter is its `credit`,
which no declaration raises and which every visit of the package uses up.

## Key results

- `Visits.credit_le`: visits of a package use up its credit
- `Catalog.discover_ends`: discovery ends, and every package is visited a bounded number of times
-/

namespace ModuleGraph

/-- Discovery without a bound on its visits ends with an outcome. -/
def Catalog.DiscoverEnds (c : Catalog) (mirrors : Mirrors) (traits : EnabledTraits)
    (extra : List Dependency) (filter : ProductFilter)
    (outcome : Except PackageError Discovery) : Prop :=
  match c.entered mirrors extra filter with
  | .error e => outcome = .error e
  | .ok start => Loop.Ends (Discovery.visitNext c mirrors traits) start outcome

namespace Discovery

/-- Visits of packages, one after the other, lead from one state of discovery to another. -/
inductive Visits (c : Catalog) (mirrors : Mirrors) (traits : EnabledTraits) :
    List Identity → Discovery → Discovery → Prop
  | none (d : Discovery) : Visits c mirrors traits [] d d
  | next {p : Identity} {ids queue : List Identity} {d d' d'' : Discovery}
      (hqueue : d.queue = p :: queue) (hstep : visitNext c mirrors traits d = .next d')
      (hrest : Visits c mirrors traits ids d' d'') : Visits c mirrors traits (p :: ids) d d''

/-- The visits of a package that may still come: its places in the queue, and one whenever its
filter grows. -/
def credit (c : Catalog) (filter : ProductFilter) (p : Identity) (d : Discovery) : Nat :=
  d.queue.count p + ProductFilter.slack (stock c filter).length (SortedMap.get? d.filters p)

section
variable {c : Catalog} {mirrors : Mirrors} {traits : EnabledTraits} {filter : ProductFilter}
  {d d' : Discovery}

/-- Visits lead somewhere exactly if those of some packages do. -/
theorem proceeds_iff_visits :
    Proceeds c mirrors traits d d' ↔ ∃ ids, Visits c mirrors traits ids d d' := by
  constructor
  · intro h
    induction h using Relation.ReflTransGen.head_induction_on with
    | refl => exact ⟨[], .none _⟩
    | head hstep _ ih =>
      obtain ⟨ids, hrest⟩ := ih
      obtain ⟨p, queue, hqueue, -⟩ := visitNext_folds hstep
      exact ⟨p :: ids, .next hqueue hstep hrest⟩
  · rintro ⟨ids, h⟩
    induction h with
    | none => exact .refl
    | next _ hstep _ ih => exact .head hstep ih

/-- Needing something of a package does not raise its credit, as it takes a place in the queue only
when its filter grows. -/
theorem neverRaised_credit (c : Catalog) (filter : ProductFilter) (p : Identity) :
    NeverRaised c filter (credit c filter p) := by
  intro id f d d' h hd hf
  unfold credit
  rcases h.slack_lt hd hf with ⟨hqueue, hfilters⟩ | ⟨g, -, -, hqueue, hfilters, hlt⟩
  · rw [hqueue, hfilters]
  · rw [hqueue, hfilters, List.count_append]
    -- Another package keeps its credit; `id` pays for its place with its slack.
    by_cases heq : p = id
    · subst heq
      rw [List.count_singleton_self, SortedMap.get?_put_self]
      omega
    · rw [List.count_singleton, beq_false_of_ne (Ne.symm heq), SortedMap.get?_put_of_ne _ _ heq]
      simp

/-- A visit uses up credit of its package. -/
theorem credit_visitNext {q : Identity} {queue : List Identity} (hd : Drawn c filter d)
    (hqueue : d.queue = q :: queue) (h : visitNext c mirrors traits d = .next d') (p : Identity) :
    [q].count p + credit c filter p d' ≤ credit c filter p d := by
  obtain ⟨q', queue', hqueue', -, hle⟩ := (neverRaised_credit c filter p).visitNext hd h
  obtain ⟨rfl, rfl⟩ := List.cons_eq_cons.1 (hqueue.symm.trans hqueue')
  unfold credit at hle ⊢
  simp only [hqueue, List.count_cons, List.count_nil]
  dsimp only at hle
  omega

/-- Visits of a package use up its credit, and all filters stay of the stock. -/
theorem Visits.credit_le {ids : List Identity} (h : Visits c mirrors traits ids d d')
    (hd : Drawn c filter d) :
    Drawn c filter d' ∧ ∀ p, ids.count p + credit c filter p d' ≤ credit c filter p d := by
  induction h with
  | none => exact ⟨hd, fun p => by simp⟩
  | @next q ids _ _ _ _ hqueue hstep _ ih =>
    obtain ⟨hdrawn, hle⟩ := ih (pending_visitNext hd hstep).1
    refine ⟨hdrawn, fun p => ?_⟩
    have hfirst := credit_visitNext hd hqueue hstep p
    have hrest := hle p
    simp only [List.count_cons, List.count_nil] at hfirst ⊢
    omega

/-- When roots and extra dependencies have been entered, a package may be visited as often as it is
among the roots, and as often as its filter can grow. -/
theorem credit_entered {extra : List Dependency} {start : Discovery}
    (h : c.entered mirrors extra filter = .ok start) (p : Identity) :
    credit c filter p start ≤ c.roots.count p + ((stock c filter).length + 3) := by
  obtain ⟨-, hle⟩ := (neverRaised_credit c filter p).entered (fun _ _ => rfl) h
  refine hle.trans ?_
  unfold credit
  rw [(enterRoots_fields ..).1]
  exact Nat.add_le_add_left (slack_le _ _) _

end

end Discovery

/-- Discovery without a bound ends with the outcome of discovery, and with no other. -/
theorem Catalog.discoverEnds_iff {c : Catalog} {mirrors : Mirrors} {traits : EnabledTraits}
    {extra : List Dependency} {filter : ProductFilter} {outcome : Except PackageError Discovery} :
    c.DiscoverEnds mirrors traits extra filter outcome ↔
      outcome = c.discover mirrors traits extra filter := by
  unfold Catalog.DiscoverEnds
  cases hstart : c.entered mirrors extra filter with
  -- Both fail at once if the inputs are refused.
  | error e =>
    have hdiscover : c.discover mirrors traits extra filter = .error e := by
      unfold Catalog.entered at hstart
      rw [Catalog.discover, hstart]
      rfl
    rw [hdiscover]
  | ok start =>
    -- The visits end, so the fuel suffices and the outcome is that of the run.
    obtain ⟨r, hr⟩ := Catalog.entered_ends traits hstart
    have hdiscover : c.discover mirrors traits extra filter = r := by
      unfold Catalog.entered at hstart
      rw [Catalog.discover, hstart]
      exact congrArg (Option.getD · (.ok start)) hr
    rw [hdiscover]
    refine ⟨fun h => h.unique ⟨_, hr⟩, ?_⟩
    rintro rfl
    exact ⟨_, hr⟩

/-- Discovery ends, however packages depend on each other.

A declaration puts a package in the queue only if it is new or joining the filters gives another
one.  Joining filters tells rightly whether the filter has become another one, and gives the least
filter that has both.  At any time every filter has only names of products that some manifest refers
to, or of the filter for the roots; and every package has been visited, or is to be, not more often
than it is among the roots and than there are such names, and three times besides. -/
theorem Catalog.discover_ends (c : Catalog) (mirrors : Mirrors) (traits : EnabledTraits)
    (extra : List Dependency) (filter : ProductFilter) :
    (∀ outcome, c.DiscoverEnds mirrors traits extra filter outcome ↔
      outcome = c.discover mirrors traits extra filter) ∧
    (∀ parent d dep f d', Discovery.declare c mirrors parent d (dep, f) = .ok d' →
      Discovery.Queues c (mirrors.identify dep.origin) f d d') ∧
    (∀ f g : ProductFilter, (f.growsBy g = true ↔ f.union g ≠ f) ∧
      ∀ h, h = f.union g ↔
        (f.Within h ∧ g.Within h) ∧ ∀ k, f.Within k → g.Within k → h.Within k) ∧
    ∀ start, c.entered mirrors extra filter = .ok start → ∀ ids d,
      Discovery.Visits c mirrors traits ids start d →
        (∀ p names, SortedMap.get? d.filters p = some (.only names) → ∀ name ∈ names.toList,
          c.NamesProduct name ∨ ∃ names', filter = .only names' ∧ name ∈ names'.toList) ∧
        ∀ p, ids.count p + d.queue.count p ≤
          c.roots.count p + ((Discovery.stock c filter).length + 3) := by
  refine ⟨fun outcome => Catalog.discoverEnds_iff,
    fun parent d dep f d' h => (Discovery.declare_ok h).queues,
    fun f g => ⟨ProductFilter.growsBy_iff, fun h => ProductFilter.eq_union_iff⟩,
    fun start hstart ids d hvisits => ?_⟩
  -- Visits draw on a credit that is given at the beginning.
  obtain ⟨hdrawn, hcredit⟩ := hvisits.credit_le (Catalog.entered_pending hstart).1
  refine ⟨fun p names hget name hname => ?_, fun p => ?_⟩
  · exact Discovery.mem_stock.1 (hdrawn p _ hget name hname)
  · have hstart := Discovery.credit_entered hstart p
    have hspent := hcredit p
    unfold Discovery.credit at hspent
    unfold Discovery.credit at hstart
    omega

/-- Packages that lead to themselves and to each other, and are visited again for what is needed of
them later. -/
theorem Catalog.discover_ends_regrown :
    ∃ start ids d, regrown.entered KeyedSet.empty [] (.ofList ["App"]) = .ok start ∧
      Discovery.Visits regrown KeyedSet.empty KeyedSet.empty ids start d ∧
      regrown.DiscoverEnds KeyedSet.empty KeyedSet.empty [] (.ofList ["App"]) (.ok d) ∧
      d.filterOf ⟨"kit"⟩ = .ofList ["One", "Two", "Three"] ∧
      ∀ p, ids.count p ≤ regrown.roots.count p + 12 := by
  have hany : ((regrown.discover KeyedSet.empty KeyedSet.empty [] (.ofList ["App"])).toOption.any
      fun d => decide (d.filterOf ⟨"kit"⟩ = .ofList ["One", "Two", "Three"])) = true := by
    decide +kernel
  obtain ⟨d, hdiscover, hkit⟩ := Except.exists_ok_of_any hany
  obtain ⟨start, hstart, hproceeds, -⟩ := Catalog.discover_proceeds hdiscover
  obtain ⟨ids, hvisits⟩ := Discovery.proceeds_iff_visits.1 hproceeds
  obtain ⟨hends, -, -, hbounded⟩ :=
    Catalog.discover_ends regrown KeyedSet.empty KeyedSet.empty [] (.ofList ["App"])
  have hstock : (Discovery.stock regrown (.ofList ["App"])).length = 9 := by decide +kernel
  refine ⟨start, ids, d, hstart, hvisits, (hends _).2 hdiscover.symm, of_decide_eq_true hkit,
    fun p => ?_⟩
  have hcount := (hbounded start hstart ids d hvisits).2 p
  omega

end ModuleGraph
