import ModuleGraph.Proofs.Catalog
import ModuleGraph.Proofs.Traits.Requests
import ModuleGraph.Proofs.Traits.Run

/-!
# The enabled traits of the packages that are reached

The record of a package that is no root is folded from the requests that were followed to it, and
its enabled traits are worked out from the record whenever that changes.  So what is enabled in the
end belongs to all requests, in whichever part of the run they came, though the name for the
defaults may be lost among them.

## Key results

- `TraitWalk.Walks.requested`: a record has the requests of the log
- `TraitWalk.Settled`: enabled traits are up to date
- `Catalog.walkTraits_enabled`: what is enabled for each package that is reached
-/

namespace ModuleGraph

/-! ### Requests of a log -/

@[simp] theorem requestsTo_nil (id : Identity) : requestsTo [] id = [] := rfl

@[simp] theorem requestsTo_expanded (id id' : Identity) (filter : ProductFilter) (traits : Names)
    (log : List TraitEvent) : requestsTo (.expanded id' filter traits :: log) id =
      requestsTo log id := by
  simp [requestsTo]

theorem requestsTo_asked (id id' : Identity) (request : Option Names) (log : List TraitEvent) :
    requestsTo (.asked id' request :: log) id =
      if id' = id then request :: requestsTo log id else requestsTo log id := by
  unfold requestsTo
  rw [List.filterMap_cons]
  split
  · next h => split at h <;> simp_all
  · next h => split at h <;> simp_all

@[simp] theorem requestsTo_append (log log' : List TraitEvent) (id : Identity) :
    requestsTo (log ++ log') id = requestsTo log id ++ requestsTo log' id := by
  simp [requestsTo]

/-- A request is among those for a package exactly if the log says so. -/
theorem mem_requestsTo (log : List TraitEvent) (id : Identity) (request : Option Names) :
    request ∈ requestsTo log id ↔ .asked id request ∈ log := by
  induction log with
  | nil => simp
  | cons event log ih =>
    cases event with
    | asked id' request' =>
      rw [requestsTo_asked]
      split
      · next heq => simp [ih, heq]
      · next hne => simp [ih, Ne.symm hne]
    | expanded id' filter traits => simp [ih]

/-- A record of some requests after further ones. -/
def foldRequests (record : Option Names) (requests : List (Option Names)) : Option Names :=
  requests.foldl (fun record request => some (mergeRequest record request)) record

namespace TraitWalk

/-! ### Records -/

/-- A request changes the record of its package alone. -/
theorem get?_record (w : TraitWalk) (id id' : Identity) (request : Option Names) :
    SortedMap.get? (w.record id' request).requested id =
      if id' = id then some (mergeRequest (SortedMap.get? w.requested id) request)
      else SortedMap.get? w.requested id := by
  unfold record
  split
  · next heq => rw [heq, SortedMap.get?_put_self]
  · next hne => rw [SortedMap.get?_put_of_ne _ _ (Ne.symm hne)]

/-- The first request of a log can be recorded before the others. -/
theorem foldRequests_asked (w : TraitWalk) (id id' : Identity) (request : Option Names)
    (log : List TraitEvent) :
    foldRequests (SortedMap.get? w.requested id) (requestsTo (.asked id' request :: log) id) =
      foldRequests (SortedMap.get? (w.record id' request).requested id) (requestsTo log id) := by
  rw [requestsTo_asked, get?_record]
  split <;> rfl

/-- A walk adds the requests of its log to each record. -/
theorem Walks.requested {mirrors : Mirrors} {c : Catalog} {w w' : TraitWalk}
    {edges : List TraitEdge} {log : List TraitEvent} (h : Walks mirrors c w edges log w')
    (id : Identity) :
    SortedMap.get? w'.requested id =
      foldRequests (SortedMap.get? w.requested id) (requestsTo log id) := by
  -- Induction on the walk: only the edge that is followed changes a record.
  induction h with
  | done w => rfl
  | absent hm _ ih => rw [foldRequests_asked, ih]
  | again hm htraits hmem _ ih =>
    rw [foldRequests_asked, ih]
    rfl
  | first hm htraits hmem _ ih =>
    rw [foldRequests_asked, requestsTo_expanded, ih]
    rfl

/-- The walks from the roots add the requests of their log to each record. -/
theorem RootsWalk.requested {mirrors : Mirrors} {c : Catalog} {filter : ProductFilter}
    {w w' : TraitWalk} {roots : List Identity} {log : List TraitEvent}
    (h : RootsWalk mirrors c filter w roots log w') (id : Identity) :
    SortedMap.get? w'.requested id =
      foldRequests (SortedMap.get? w.requested id) (requestsTo log id) := by
  induction h with
  | done w => rfl
  | absent hm _ ih => exact ih
  | root hm hwalk _ ih =>
    rw [requestsTo_expanded, requestsTo_append, ih, hwalk.requested id]
    exact (List.foldl_append ..).symm

/-- Asking the roots leaves the records of all other packages as they are. -/
theorem requested_askRoot {c : Catalog} {selection : TraitSelection} {roots : List Identity}
    {w w' : TraitWalk} (h : roots.foldlM (askRoot c selection) w = .ok w') (id : Identity)
    (hid : id ∉ roots) : SortedMap.get? w'.requested id = SortedMap.get? w.requested id := by
  refine Except.foldlM_inv (fun v => SortedMap.get? v.requested id = SortedMap.get? w.requested id)
    (fun root hroot v v' hv hask => ?_) rfl h
  rcases askRoot_ok hask with ⟨-, rfl⟩ | ⟨m, traits, -, -, rfl⟩
  · exact hv
  · have hne : id ≠ root := fun heq => hid (heq ▸ hroot)
    exact (SortedMap.get?_put_of_ne _ _ hne).trans hv

/-! ### Enabled traits -/

/-- The enabled traits of every package with a record are those that the record enables. -/
def Settled (c : Catalog) (w : TraitWalk) : Prop :=
  ∀ id m record, c.manifest? id = some m → SortedMap.get? w.requested id = some record →
    ∃ traits, SortedMap.get? w.enabled id = some traits ∧ m.enabledTraits record = .ok traits

/-- Every request keeps the enabled traits up to date. -/
theorem keeps_settled (c : Catalog) : Keeps c (Settled c) where
  start := fun _ _ _ _ hrecord => nomatch hrecord
  absent := by
    intro w id request hm hw id' m' record' hm' hrecord'
    -- The package that is asked has no manifest, so its record enables nothing.
    have hne : id ≠ id' := by
      rintro rfl
      rw [hm] at hm'
      exact nomatch hm'
    rw [get?_record, if_neg hne] at hrecord'
    exact hw id' m' record' hm' hrecord'
  put := by
    intro w id m record traits expanded hm htraits hw id' m' record' hm' hrecord'
    -- Only the package whose record is set has other enabled traits than before.
    by_cases heq : id' = id
    · subst heq
      rw [hm] at hm'
      cases hm'
      rw [SortedMap.get?_put_self] at hrecord'
      cases hrecord'
      exact ⟨traits, SortedMap.get?_put_self .., htraits⟩
    · rw [SortedMap.get?_put_of_ne _ _ heq] at hrecord'
      rw [SortedMap.get?_put_of_ne _ _ heq]
      exact hw id' m' record' hm' hrecord'

end TraitWalk

namespace TraitsRun

/-- In the end all enabled traits are up to date. -/
theorem settled {c : Catalog} {mirrors : Mirrors} {extra : List Dependency}
    {selection : TraitSelection} {filter : ProductFilter} {log : List TraitEvent} {w : TraitWalk}
    (h : TraitsRun c mirrors extra selection filter log w) : TraitWalk.Settled c w :=
  h.keeps (TraitWalk.keeps_settled c)

/-- The record of a package that is no root has the requests of the log. -/
theorem requested {c : Catalog} {mirrors : Mirrors} {extra : List Dependency}
    {selection : TraitSelection} {filter : ProductFilter} {log : List TraitEvent} {w : TraitWalk}
    (h : TraitsRun c mirrors extra selection filter log w) (id : Identity)
    (hid : c.isRoot id = false) :
    SortedMap.get? w.requested id = recordOf (requestsTo log id) := by
  obtain ⟨asked, walked, log₁, log₂, hasked, hroots, hextra, rfl⟩ := h.run
  have hroot : id ∉ c.roots := by simpa [Catalog.isRoot] using hid
  have hnone : SortedMap.get? asked.requested id = none :=
    TraitWalk.requested_askRoot hasked id hroot
  rw [hextra.requested, hroots.requested, hnone, requestsTo_append]
  exact (List.foldl_append ..).symm

end TraitsRun

/-- The enabled traits of a package that is reached, and is no root, are what its manifest enables
for the requests that were followed to it.  A record has all names that are asked for, but the name
for the defaults can be lost: that is so for some order of the requests unless the defaults are
asked for together with another name, or nothing else is asked for. -/
theorem Catalog.walkTraits_enabled {c : Catalog} {mirrors : Mirrors} {extra : List Dependency}
    {selection : TraitSelection} {filter : ProductFilter} {w : TraitWalk}
    (h : c.walkTraits mirrors extra selection filter = .ok w) :
    (∃ log, TraitsRun c mirrors extra selection filter log w ∧
      ∀ id m, c.manifest? id = some m → c.isRoot id = false → requestsTo log id ≠ [] →
        ∃ traits, SortedMap.get? w.enabled id = some traits ∧
          m.enabledTraits (recordedFrom (requestsTo log id)) = .ok traits) ∧
    ∀ requests : List (Option Names), requests ≠ [] →
      recordOf requests = some (recordedFrom requests) ∧
      (∀ x, x ∈ (recordedFrom requests).toList ↔
        x ∈ (requestedUnion requests).toList ∧
          (x = defaultTrait → requests.reduceOption = [] ∨
            ∃ s ∈ countedOf requests.reduceOption, defaultTrait ∈ s.toList)) ∧
      ((∀ requests', requests'.Perm requests →
        recordOf requests' = some (requestedUnion requests)) ↔
        KeepsDefault requests.reduceOption) := by
  obtain ⟨log, hrun⟩ := Catalog.exists_traitsRun h
  refine ⟨⟨log, hrun, fun id m hm hid hreached => ?_⟩, fun requests hne =>
    ⟨recordOf_eq requests hne, mem_recordedFrom requests, recordOf_perm_iff requests hne⟩⟩
  have hrecord := hrun.requested id hid
  rw [recordOf_eq _ hreached] at hrecord
  exact hrun.settled id m _ hm hrecord

/-- Two packages ask for traits of a third one, the first of them for its defaults alone. -/
def defaultsFirst : Catalog :=
  Catalog.ofList KeyedSet.empty
    [{ Manifest.bare (.root ⟨"app"⟩) "App" with
        dependencies := [.onRegistry "a" none, .onRegistry "b" none] },
      { Manifest.bare (.registry "a") "A" with
        dependencies := [.onRegistry "kit" (some ["default"])] },
      { Manifest.bare (.registry "b") "B" with
        dependencies := [.onRegistry "kit" (some ["Json"])] },
      { Manifest.bare (.registry "kit") "Kit" with
        traits := [⟨"default", KeyedSet.ofList ["Basic"], none⟩, ⟨"Basic", KeyedSet.empty, none⟩,
          ⟨"Json", KeyedSet.empty, none⟩] }]

/-- The request for the defaults alone is lost: only the other one is enabled. -/
theorem walkTraits_enabled_defaultsFirst :
    ∃ w log, defaultsFirst.walkTraits KeyedSet.empty [] .defaults .everything = .ok w ∧
      TraitsRun defaultsFirst KeyedSet.empty [] .defaults .everything log w ∧
      (∀ id m, defaultsFirst.manifest? id = some m → defaultsFirst.isRoot id = false →
        requestsTo log id ≠ [] →
        ∃ traits, SortedMap.get? w.enabled id = some traits ∧
          m.enabledTraits (recordedFrom (requestsTo log id)) = .ok traits) ∧
      SortedMap.get? w.enabled ⟨"kit"⟩ = some (KeyedSet.ofList ["Json"]) := by
  have hany : ((defaultsFirst.walkTraits KeyedSet.empty [] .defaults .everything).toOption.any
      fun w => SortedMap.get? w.enabled ⟨"kit"⟩ == some (KeyedSet.ofList ["Json"])) = true := by
    decide +kernel
  obtain ⟨w, h, hkit⟩ := Except.exists_ok_of_any hany
  obtain ⟨⟨log, hrun, henabled⟩, -⟩ := Catalog.walkTraits_enabled h
  exact ⟨w, log, h, hrun, henabled, beq_iff_eq.1 hkit⟩

end ModuleGraph
