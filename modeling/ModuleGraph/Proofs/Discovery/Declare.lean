import ModuleGraph.Graph.Discovery
import ModuleGraph.Proofs.Catalog
import ModuleGraph.Proofs.Outcome

/-!
# What a declaration changes

`Declared` says what discovery knows after a dependency has been noted: the edge to the package,
what is needed of it, and whether it is to be visited.  Everything that holds of discovery as a
whole follows from this one step and from what a visit is made of.

## Key results

- `declare_ok`: a declaration that succeeds does what `Declared` says
- `visitNext_next`: a visit is a fold of declarations
-/

namespace ModuleGraph.Discovery

/-- What becomes of the filters and of the packages to visit when `filter` is needed of a
package. -/
inductive Needed (c : Catalog) (id : Identity) (filter : ProductFilter) (d d' : Discovery) :
    Prop where
  /-- The package has no manifest. -/
  | absent (hhas : c.has id = false) (hfilters : d'.filters = d.filters)
      (horder : d'.order = d.order) (hqueue : d'.queue = d.queue)
  /-- The package is met for the first time, and is to be visited. -/
  | first (hhas : c.has id = true) (hget : SortedMap.get? d.filters id = none)
      (hfilters : d'.filters = SortedMap.put d.filters id filter)
      (horder : d'.order = d.order ++ [id]) (hqueue : d'.queue = d.queue ++ [id])
  /-- The package has been met, and is to be visited again if its filter grows. -/
  | again (old : ProductFilter) (hhas : c.has id = true)
      (hget : SortedMap.get? d.filters id = some old)
      (hfilters : d'.filters = SortedMap.put d.filters id (old.union filter))
      (horder : d'.order = d.order)
      (hqueue : d'.queue = if old.growsBy filter then d.queue ++ [id] else d.queue)

/-- What discovery knows after `parent` has declared that it needs `filter` of the package. -/
structure Declared (c : Catalog) (parent : Option Identity) (id : Identity)
    (filter : ProductFilter) (d d' : Discovery) : Prop where
  extra : d'.extra = d.extra
  edges : ∀ p, d'.edgesOf p =
    if parent = some p ∧ c.has id = true then addNew (d.edgesOf p) id else d.edgesOf p
  unloaded : ∀ p, d'.unloadedOf p =
    if parent = some p ∧ c.has id = false then addNew (d.unloadedOf p) id else d.unloadedOf p
  needed : Needed c id filter d d'

/-- What becomes of filters and packages does not depend on anything else that is known. -/
theorem Needed.congr {c : Catalog} {id : Identity} {filter : ProductFilter} {d d₁ d' : Discovery}
    (h : Needed c id filter d₁ d') (hfilters₁ : d₁.filters = d.filters)
    (horder₁ : d₁.order = d.order) (hqueue₁ : d₁.queue = d.queue) : Needed c id filter d d' := by
  cases h with
  | absent hhas hfilters horder hqueue =>
    exact .absent hhas (hfilters.trans hfilters₁) (horder.trans horder₁) (hqueue.trans hqueue₁)
  | first hhas hget hfilters horder hqueue =>
    rw [hfilters₁] at hget hfilters
    rw [horder₁] at horder
    rw [hqueue₁] at hqueue
    exact .first hhas hget hfilters horder hqueue
  | again old hhas hget hfilters horder hqueue =>
    rw [hfilters₁] at hget hfilters
    rw [hqueue₁] at hqueue
    exact .again old hhas hget hfilters (horder.trans horder₁) hqueue

/-- Members of a list to which an item is added, unless it is there. -/
theorem mem_addNew {α : Type} [DecidableEq α] (items : List α) (a b : α) :
    b ∈ addNew items a ↔ b ∈ items ∨ b = a := by
  unfold addNew
  split
  · next h =>
    have ha : a ∈ items := by simpa using h
    exact ⟨.inl, fun hb => hb.elim id fun heq => heq ▸ ha⟩
  · simp

/-- An item that is added unless it is there does not come twice. -/
theorem nodup_addNew {α : Type} [DecidableEq α] {items : List α} (h : items.Nodup) (a : α) :
    (addNew items a).Nodup := by
  unfold addNew
  split
  · exact h
  · next hnew =>
    have hnew : a ∉ items := by simpa using hnew
    exact List.nodup_append.2 ⟨h, List.nodup_singleton a, fun b hb b' hb' heq =>
      hnew (List.mem_singleton.1 hb' ▸ heq ▸ hb)⟩

/-- Members of a list to which several items are added, unless they are there. -/
theorem mem_foldl_addNew {α : Type} [DecidableEq α] (added items : List α) (b : α) :
    b ∈ added.foldl addNew items ↔ b ∈ items ∨ b ∈ added := by
  induction added generalizing items with
  | nil => simp
  | cons a added ih => rw [List.foldl_cons, ih, mem_addNew, List.mem_cons, or_assoc]

/-- Entering the declaration concerns the declarations and the needed packages alone. -/
theorem enterDeclaration_fields (c : Catalog) (d : Discovery) (parent : Option Identity)
    (dep : Dependency) (id : Identity) :
    ∃ declarations required,
      d.enterDeclaration c parent dep id = { d with declarations, required } := by
  unfold enterDeclaration
  split
  · exact ⟨_, _, rfl⟩
  · exact ⟨_, _, rfl⟩

/-- Entering the name concerns the names alone. -/
theorem enterName_ok {d d' : Discovery} {parent : Option Identity} {dep : Dependency}
    (h : d.enterName parent dep = .ok d') : ∃ names, d' = { d with names } := by
  unfold enterName at h
  split at h
  · exact ⟨_, by cases h; rfl⟩
  · dsimp only at h
    split at h
    · exact ⟨_, by cases h; rfl⟩
    · split at h
      · exact nomatch h
      · exact ⟨_, by cases h; rfl⟩

/-- Entering the edge concerns the packages that `parent` depends on, loaded or not. -/
theorem enterEdge_fields (c : Catalog) (d : Discovery) (parent : Option Identity) (id : Identity) :
    ∃ edges unloaded, d.enterEdge c parent id = { d with edges, unloaded } ∧
      (∀ p, SortedMap.getD edges p [] =
        if parent = some p ∧ c.has id = true then addNew (d.edgesOf p) id else d.edgesOf p) ∧
      ∀ p, SortedMap.getD unloaded p [] =
        if parent = some p ∧ c.has id = false then addNew (d.unloadedOf p) id
        else d.unloadedOf p := by
  unfold enterEdge
  cases parent with
  | none => exact ⟨_, _, rfl, fun p => by simp [edgesOf], fun p => by simp [unloadedOf]⟩
  | some q =>
    dsimp only
    -- One of the two lists grows, depending on whether there is a manifest.
    cases hhas : c.has id with
    | false =>
      refine ⟨_, _, rfl, fun p => by simp [edgesOf], fun p => ?_⟩
      by_cases heq : p = q
      · subst heq
        simp [unloadedOf]
      · simp [unloadedOf, SortedMap.getD_update_of_ne _ _ _ heq, Ne.symm heq]
    | true =>
      refine ⟨_, _, rfl, fun p => ?_, fun p => by simp [unloadedOf]⟩
      by_cases heq : p = q
      · subst heq
        simp [edgesOf]
      · simp [edgesOf, SortedMap.getD_update_of_ne _ _ _ heq, Ne.symm heq]

/-- A need concerns the filters and the packages that are met, with what led to them. -/
theorem need_fields (c : Catalog) (d : Discovery) (parent : Option Identity) (id : Identity)
    (filter : ProductFilter) :
    ∃ filters order parents queue,
      d.need c parent id filter = { d with filters, order, parents, queue } := by
  unfold need
  split
  · exact ⟨_, _, _, _, rfl⟩
  · split
    · exact ⟨_, _, _, _, rfl⟩
    · exact ⟨_, _, _, _, rfl⟩

/-- What a need changes. -/
theorem needed_need (c : Catalog) (d : Discovery) (parent : Option Identity) (id : Identity)
    (filter : ProductFilter) : Needed c id filter d (d.need c parent id filter) := by
  unfold need
  cases hhas : c.has id with
  | false => exact .absent hhas rfl rfl rfl
  | true =>
    simp only [Bool.not_true, Bool.false_eq_true, if_false]
    cases hget : SortedMap.get? d.filters id with
    | none => exact .first hhas hget rfl rfl rfl
    | some old => exact .again old hhas hget rfl rfl rfl

/-- Entering the edge to a package and the need for it. -/
theorem declared_need (c : Catalog) (d : Discovery) (parent : Option Identity) (id : Identity)
    (filter : ProductFilter) :
    Declared c parent id filter d ((d.enterEdge c parent id).need c parent id filter) := by
  obtain ⟨edges, unloaded, hentered, hedges, hunloaded⟩ := enterEdge_fields c d parent id
  have hneeded := needed_need c { d with edges, unloaded } parent id filter
  obtain ⟨filters, order, parents, queue, hneed⟩ :=
    need_fields c { d with edges, unloaded } parent id filter
  rw [hentered]
  rw [hneed] at hneeded ⊢
  exact ⟨rfl, hedges, hunloaded, hneeded.congr rfl rfl rfl⟩

/-- A declaration that succeeds. -/
theorem declare_ok {c : Catalog} {mirrors : Mirrors} {parent : Option Identity}
    {d d' : Discovery} {dep : Dependency} {filter : ProductFilter}
    (h : declare c mirrors parent d (dep, filter) = .ok d') :
    Declared c parent (mirrors.identify dep.origin) filter d d' := by
  unfold declare at h
  obtain ⟨_, -, h⟩ := Except.bind_eq_ok.1 h
  obtain ⟨d₁, hname, h⟩ := Except.bind_eq_ok.1 h
  -- The checks pass, and everything else is noted in the name of the declaring package.
  cases h
  obtain ⟨names, rfl⟩ := enterName_ok hname
  obtain ⟨declarations, required, hdecl⟩ := enterDeclaration_fields c { d with names } parent dep
    (mirrors.identify dep.origin)
  rw [hdecl]
  obtain ⟨hextra, hedges, hunloaded, hneeded⟩ := declared_need c
    { d with names, declarations, required } parent (mirrors.identify dep.origin) filter
  exact ⟨hextra, hedges, hunloaded, hneeded.congr rfl rfl rfl⟩

/-- What a visit that goes on does. -/
theorem visitNext_next {c : Catalog} {mirrors : Mirrors} {traits : EnabledTraits}
    {d d' : Discovery} (h : visitNext c mirrors traits d = .next d') :
    ∃ id queue, d.queue = id :: queue ∧
      ((c.manifest? id = none ∧ d' = { d with queue }) ∨
        ∃ m, c.manifest? id = some m ∧
          (m.requiredDependencies mirrors.identify (d.filterOf id) (traits.of id)).foldlM
            (declare c mirrors (some id)) { d with queue } = .ok d') := by
  unfold visitNext at h
  split at h
  · exact nomatch h
  · next id queue hqueue =>
    refine ⟨id, queue, hqueue, ?_⟩
    dsimp only at h
    -- A package without a manifest is only taken from the queue.
    split at h
    · next hm =>
      cases h
      exact .inl ⟨hm, rfl⟩
    · next m hm =>
      split at h
      · exact nomatch h
      · next d'' hfold =>
        cases h
        exact .inr ⟨m, hm, hfold⟩

/-- Visits end where no packages are left to visit. -/
theorem visitNext_ok {c : Catalog} {mirrors : Mirrors} {traits : EnabledTraits}
    {d d' : Discovery} (h : visitNext c mirrors traits d = .done (.ok d')) :
    d.queue = [] ∧ d' = d := by
  unfold visitNext at h
  split at h
  · next hqueue =>
    cases h
    exact ⟨hqueue, rfl⟩
  · dsimp only at h
    split at h
    · exact nomatch h
    · split at h <;> exact nomatch h

/-- An extra dependency that is entered is declared, and its package is noted. -/
theorem enterExtra_ok {c : Catalog} {mirrors : Mirrors} {d d' : Discovery} {dep : Dependency}
    (h : enterExtra c mirrors d dep = .ok d') :
    ∃ d₁, Declared c none (mirrors.identify dep.origin) .everything d d₁ ∧
      d' = { d₁ with extra := addNew d₁.extra (mirrors.identify dep.origin) } := by
  unfold enterExtra at h
  obtain ⟨d₁, hdeclare, h⟩ := Except.bind_eq_ok.1 h
  cases h
  exact ⟨d₁, declare_ok hdeclare, rfl⟩

end ModuleGraph.Discovery
