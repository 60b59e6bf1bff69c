import ModuleGraph.Proofs.Discovery.Bound
import Mathlib.Logic.Relation

/-!
# Discovery meets only what is reached

Every package that discovery has met is led to, along the edges that it has noted, from a root or
from an extra dependency.  Edges, filters and the list of packages only grow, so what is reached
stays reached.

## Key results

- `Declared.grows`, `Declared.sound`: what one declaration keeps
- `Catalog.discover_sound`: what holds when discovery has ended
-/

namespace ModuleGraph

namespace Discovery

/-- Whether one package leads to another along the edges. -/
def Leads (d : Discovery) : Identity → Identity → Prop :=
  Relation.ReflTransGen fun p q => q ∈ d.edgesOf p

/-- Nothing that discovery knows is forgotten. -/
structure Grows (d d' : Discovery) : Prop where
  edges : ∀ p, ∀ q ∈ d.edgesOf p, q ∈ d'.edgesOf p
  unloaded : ∀ p, ∀ q ∈ d.unloadedOf p, q ∈ d'.unloadedOf p
  order : ∀ id ∈ d.order, id ∈ d'.order
  filters : ∀ id f, SortedMap.get? d.filters id = some f →
    ∃ f', SortedMap.get? d'.filters id = some f' ∧ f.Within f'

/-- What is known of the packages that have been met, when the walk began with `inputs`. -/
structure Sound (c : Catalog) (inputs : List Identity) (d : Discovery) : Prop where
  queued : ∀ id ∈ d.queue, id ∈ d.order
  entered : ∀ id, (SortedMap.get? d.filters id).isSome = true ↔ id ∈ d.order
  reached : ∀ id ∈ d.order, ∃ a ∈ inputs, d.Leads a id
  edges : ∀ p, ∀ q ∈ d.edgesOf p,
    (c.has p = true ∧ p ∈ d.order) ∧ c.has q = true ∧ q ∈ d.order

/-! ### Growth -/

/-- Nothing is forgotten where nothing changes. -/
theorem Grows.refl (d : Discovery) : Grows d d :=
  ⟨fun _ _ h => h, fun _ _ h => h, fun _ h => h, fun _ f h => ⟨f, h, .refl f⟩⟩

/-- What is not forgotten in two steps is not forgotten. -/
theorem Grows.trans {d d' d'' : Discovery} (h : Grows d d') (h' : Grows d' d'') :
    Grows d d'' where
  edges := fun p q hq => h'.edges p q (h.edges p q hq)
  unloaded := fun p q hq => h'.unloaded p q (h.unloaded p q hq)
  order := fun id hid => h'.order id (h.order id hid)
  filters := by
    intro id f hf
    obtain ⟨f', hf', hwithin⟩ := h.filters id f hf
    obtain ⟨f'', hf'', hwithin'⟩ := h'.filters id f' hf'
    exact ⟨f'', hf'', hwithin.trans hwithin'⟩

/-- What is led to stays so. -/
theorem Grows.leads {d d' : Discovery} (h : Grows d d') {a b : Identity} (hab : d.Leads a b) :
    d'.Leads a b :=
  Relation.ReflTransGen.mono (fun p q hq => h.edges p q hq) _ _ hab

/-- A declaration forgets nothing. -/
theorem Declared.grows {c : Catalog} {parent : Option Identity} {id : Identity}
    {filter : ProductFilter} {d d' : Discovery} (h : Declared c parent id filter d d') :
    Grows d d' where
  edges := by
    intro p q hq
    -- Only the edges of the parent change, and they are added to.
    rw [h.edges p]
    split
    · exact (mem_addNew _ _ _).2 (.inl hq)
    · exact hq
  unloaded := by
    intro p q hq
    rw [h.unloaded p]
    split
    · exact (mem_addNew _ _ _).2 (.inl hq)
    · exact hq
  order := by
    intro p hp
    cases h.needed with
    | absent _ _ horder => exact horder ▸ hp
    -- Only here the order changes, at its end.
    | first _ _ _ horder => exact horder ▸ List.mem_append_left [id] hp
    | again _ _ _ _ horder => exact horder ▸ hp
  filters := by
    intro p f hf
    cases h.needed with
    | absent _ hfilters => exact ⟨f, hfilters ▸ hf, .refl f⟩
    -- `p` has a filter and `id` had none, so they are not the same.
    | first _ hget hfilters =>
      exact ⟨f, by rw [hfilters]; exact SortedMap.get?_put_of_new hget hf, .refl f⟩
    | again old _ hget hfilters =>
      -- The filter of `id` is joined with the one asked for, the others stay.
      by_cases heq : p = id
      · subst heq
        rw [hget] at hf
        cases hf
        exact ⟨_, by rw [hfilters, SortedMap.get?_put_self],
          ProductFilter.within_union_left f filter⟩
      · exact ⟨f, by rw [hfilters, SortedMap.get?_put_of_ne _ _ heq, hf], .refl f⟩

/-! ### Soundness -/

section
variable {c : Catalog} {inputs : List Identity} {parent : Option Identity} {id : Identity}
  {filter : ProductFilter} {d d' : Discovery}

/-- A package with a manifest that is declared has been met. -/
theorem Declared.mem_order (h : Declared c parent id filter d d') (hd : Sound c inputs d)
    (hhas : c.has id = true) : id ∈ d'.order := by
  cases h.needed with
  | absent hno =>
    rw [hhas] at hno
    exact nomatch hno
  | first _ _ _ horder => simp [horder]
  | again _ _ hget _ horder =>
    rw [horder]
    exact (hd.entered id).1 (by rw [hget]; rfl)

/-- A declaration puts packages in the queue that have been met. -/
theorem Declared.queued (h : Declared c parent id filter d d') (hd : Sound c inputs d) :
    ∀ q ∈ d'.queue, q ∈ d'.order := by
  intro q hq
  have hold : q ∈ d.queue → q ∈ d'.order := fun hq => h.grows.order q (hd.queued q hq)
  cases h.needed with
  | absent _ _ _ hqueue => exact hold (hqueue ▸ hq)
  | first hhas _ _ _ hqueue =>
    rw [hqueue, List.mem_append, List.mem_singleton] at hq
    exact hq.elim hold fun heq => heq ▸ h.mem_order hd hhas
  | again _ hhas _ _ _ hqueue =>
    rw [hqueue] at hq
    split at hq
    · rw [List.mem_append, List.mem_singleton] at hq
      exact hq.elim hold fun heq => heq ▸ h.mem_order hd hhas
    · exact hold hq

/-- A declaration sets filters for packages that have been met, and for no others. -/
theorem Declared.entered (h : Declared c parent id filter d d') (hd : Sound c inputs d)
    (q : Identity) : (SortedMap.get? d'.filters q).isSome = true ↔ q ∈ d'.order := by
  cases h.needed with
  | absent _ hfilters horder => rw [hfilters, horder, hd.entered]
  | first _ _ hfilters horder =>
    -- The package gets its filter and its place in the order at once.
    rw [hfilters, horder, List.mem_append, List.mem_singleton, ← hd.entered]
    by_cases heq : q = id
    · subst heq
      simp
    · simp [SortedMap.get?_put_of_ne _ _ heq, heq]
  | again old _ hget hfilters horder =>
    rw [hfilters, horder, ← hd.entered]
    by_cases heq : q = id
    · subst heq
      simp [hget]
    · rw [SortedMap.get?_put_of_ne _ _ heq]

/-- The package that is declared is led to, since the package that declares it is. -/
theorem Declared.reached (h : Declared c parent id filter d d') (hd : Sound c inputs d)
    (hparent : ∀ p ∈ parent, p ∈ d.order ∧ c.has p = true)
    (hinput : parent = none → id ∈ inputs) (hhas : c.has id = true) :
    ∃ a ∈ inputs, d'.Leads a id := by
  cases hp : parent with
  | none => exact ⟨id, hinput hp, .refl⟩
  | some p =>
    obtain ⟨a, ha, hlead⟩ := hd.reached p (hparent p hp).1
    refine ⟨a, ha, (h.grows.leads hlead).tail ?_⟩
    rw [h.edges p, if_pos ⟨hp, hhas⟩]
    exact (mem_addNew _ _ _).2 (.inr rfl)

/-- A declaration keeps what is known sound, if it is made by a package that has been met, or
concerns a package from which the walk began. -/
theorem Declared.sound (h : Declared c parent id filter d d') (hd : Sound c inputs d)
    (hparent : ∀ p ∈ parent, p ∈ d.order ∧ c.has p = true)
    (hinput : parent = none → id ∈ inputs) : Sound c inputs d' where
  queued := h.queued hd
  entered := h.entered hd
  reached := by
    intro q hq
    have hold : q ∈ d.order → ∃ a ∈ inputs, d'.Leads a q := fun hq => by
      obtain ⟨a, ha, hlead⟩ := hd.reached q hq
      exact ⟨a, ha, h.grows.leads hlead⟩
    cases h.needed with
    | absent _ _ horder => exact hold (horder ▸ hq)
    | first hhas _ _ horder =>
      rw [horder, List.mem_append, List.mem_singleton] at hq
      exact hq.elim hold fun heq => heq ▸ h.reached hd hparent hinput hhas
    | again _ _ _ _ horder => exact hold (horder ▸ hq)
  edges := by
    intro p q hq
    have hold : q ∈ d.edgesOf p →
        (c.has p = true ∧ p ∈ d'.order) ∧ c.has q = true ∧ q ∈ d'.order := fun hq => by
      obtain ⟨⟨hp, hpmem⟩, hhas, hmem⟩ := hd.edges p q hq
      exact ⟨⟨hp, h.grows.order p hpmem⟩, hhas, h.grows.order q hmem⟩
    rw [h.edges p] at hq
    split at hq
    · next hcond =>
      -- The only new edge leads from the declaring package to the declared one.
      rcases (mem_addNew _ _ _).1 hq with hq | rfl
      · exact hold hq
      · obtain ⟨hpmem, hp⟩ := hparent p hcond.1
        exact ⟨⟨hp, h.grows.order p hpmem⟩, hcond.2, h.mem_order hd hcond.2⟩
    · exact hold hq

end

/-- Nothing is known at first. -/
theorem sound_empty (c : Catalog) (inputs : List Identity) : Sound c inputs empty :=
  ⟨fun _ h => (nomatch h), fun _ => by simp [empty, SortedMap.get?_empty],
    fun _ h => (nomatch h), fun _ _ h => (nomatch h)⟩

/-- Entering a root keeps what is known sound. -/
theorem Sound.enterRoot {c : Catalog} {inputs : List Identity} {filter : ProductFilter}
    {d : Discovery} (hd : Sound c inputs d) {id : Identity} (hid : id ∈ inputs) :
    Sound c inputs (d.enterRoot c filter id) where
  queued := by
    intro q hq
    rcases List.mem_append.1 hq with hq | hq
    · exact List.mem_append_left _ (hd.queued q hq)
    · exact List.mem_append_right _ hq
  entered := by
    intro q
    show (SortedMap.get? (SortedMap.put d.filters id filter) q).isSome = true ↔
      q ∈ d.order ++ [id]
    rw [List.mem_append, List.mem_singleton, ← hd.entered]
    -- The root is the only package that gets a filter.
    by_cases heq : q = id
    · subst heq
      simp
    · simp [SortedMap.get?_put_of_ne _ _ heq, heq]
  reached := by
    intro q hq
    rcases List.mem_append.1 hq with hq | hq
    · exact hd.reached q hq
    · rw [List.mem_singleton] at hq
      exact ⟨id, hid, hq ▸ .refl⟩
  edges := by
    intro p q hq
    obtain ⟨⟨hp, hpmem⟩, hhas, hmem⟩ := hd.edges p q hq
    exact ⟨⟨hp, List.mem_append_left _ hpmem⟩, hhas, List.mem_append_left _ hmem⟩

/-- A visit keeps what is known sound. -/
theorem Sound.visitNext {c : Catalog} {inputs : List Identity} {mirrors : Mirrors}
    {traits : EnabledTraits} {d d' : Discovery} (hd : Sound c inputs d)
    (h : visitNext c mirrors traits d = .next d') : Sound c inputs d' := by
  obtain ⟨id, queue, hqueue, ⟨-, rfl⟩ | ⟨m, hm, hfold⟩⟩ := visitNext_next h
  · exact ⟨fun p hp => hd.queued p (by simp [hqueue, hp]), hd.entered, hd.reached, hd.edges⟩
  · have hid : id ∈ d.order := hd.queued id (by simp [hqueue])
    have hhas : c.has id = true := Catalog.has_iff.2 ⟨m, hm⟩
    have hstart : Sound c inputs { d with queue } :=
      ⟨fun p hp => hd.queued p (by simp [hqueue, hp]), hd.entered, hd.reached, hd.edges⟩
    -- The package that is visited stays among those that have been met.
    refine (Except.foldlM_inv (fun e => Sound c inputs e ∧ id ∈ e.order)
      (fun entry _ e e' he hdeclare => ?_) ⟨hstart, hid⟩ hfold).1
    have hdeclared := declare_ok hdeclare
    refine ⟨hdeclared.sound he.1 (fun p hp => ?_) (fun hnone => nomatch hnone),
      hdeclared.grows.order id he.2⟩
    cases hp
    exact ⟨he.2, hhas⟩

/-- Entering an extra dependency keeps what is known sound. -/
theorem Sound.enterExtra {c : Catalog} {inputs : List Identity} {mirrors : Mirrors}
    {d d' : Discovery} {dep : Dependency} (hd : Sound c inputs d)
    (hid : mirrors.identify dep.origin ∈ inputs) (h : enterExtra c mirrors d dep = .ok d') :
    Sound c inputs d' := by
  obtain ⟨d₁, hdeclared, rfl⟩ := enterExtra_ok h
  have hsound := hdeclared.sound hd (fun p hp => nomatch hp) fun _ => hid
  exact ⟨hsound.queued, hsound.entered, hsound.reached, hsound.edges⟩

end Discovery

/-- The identities from which discovery begins. -/
def Catalog.startsOf (c : Catalog) (mirrors : Mirrors) (extra : List Dependency) : List Identity :=
  c.roots ++ extra.map fun d => mirrors.identify d.origin

/-- When discovery has ended, everything that it has met is led to from a root or from an extra
dependency. -/
theorem Catalog.discover_sound {c : Catalog} {mirrors : Mirrors} {traits : EnabledTraits}
    {extra : List Dependency} {filter : ProductFilter} {d : Discovery}
    (h : c.discover mirrors traits extra filter = .ok d) :
    Discovery.Sound c (c.startsOf mirrors extra) d := by
  have hroots : Discovery.Sound c (c.startsOf mirrors extra)
      (c.roots.foldl (Discovery.enterRoot c filter) Discovery.empty) :=
    List.foldlRecOn c.roots (Discovery.enterRoot c filter) (Discovery.sound_empty c _)
      fun e he id hid => he.enterRoot (List.mem_append_left _ hid)
  refine (Catalog.discover_induct h (Discovery.Sound c (c.startsOf mirrors extra)) hroots
    (fun dep hdep e e' he hstep => he.enterExtra ?_ hstep)
    (fun e e' he hstep => he.visitNext hstep)).1
  exact List.mem_append_right _ (List.mem_map_of_mem hdep)

end ModuleGraph
