import ModuleGraph.Proofs.Catalog
import ModuleGraph.Proofs.Traits.Implications
import ModuleGraph.Proofs.Traits.Run

/-!
# Trait resolution ends, with records and traits that agree

Trait resolution ends for packages that depend on each other in any way: `Resolves` gives its log.
A package counts as expanded from the moment it is entered, and the roots from the beginning, so the
log has no package twice.  The record of a package may change whenever a dependency leads to it, but
its traits are worked out anew each time.

## Key results

- `TraitWalk.WalksTo.expandsOnce`: a walk expands only packages that have not been expanded
- `Resolves.nodup_expandedIn`: no package is expanded twice in a run
- `TraitWalk.keeps_agrees`: what is enabled is what the record enables
- `Catalog.walkTraits_settles`: the whole run
-/

namespace ModuleGraph

/-- The packages that are expanded, in the order of a log. -/
def expandedIn (log : List TraitEvent) : List Identity :=
  log.filterMap fun
    | .asked _ _ => none
    | .expanded id _ _ => some id

@[simp] theorem expandedIn_nil : expandedIn [] = [] := rfl

@[simp] theorem expandedIn_asked (id : Identity) (request : Option Names)
    (log : List TraitEvent) : expandedIn (.asked id request :: log) = expandedIn log := rfl

@[simp] theorem expandedIn_expanded (id : Identity) (filter : ProductFilter) (traits : Names)
    (log : List TraitEvent) :
    expandedIn (.expanded id filter traits :: log) = id :: expandedIn log := rfl

@[simp] theorem expandedIn_append (log log' : List TraitEvent) :
    expandedIn (log ++ log') = expandedIn log ++ expandedIn log' := by
  simp [expandedIn]

section
variable {c : Catalog} {mirrors : Mirrors} {extra : List Dependency} {selection : TraitSelection}
  {filter : ProductFilter}

/-! ### No package is expanded twice -/

namespace TraitWalk

/-- The packages of a log are expanded once.  Except for given roots they have not been expanded
before, and in the end they count as expanded. -/
structure ExpandsOnce (root : Identity → Prop) (w : TraitWalk) (log : List TraitEvent)
    (r : Except TraitError TraitWalk) : Prop where
  nodup : (expandedIn log).Nodup
  fresh : ∀ id ∈ expandedIn log, root id ∨ id ∉ w.expanded
  noted : ∀ w', r = .ok w' → ∀ id, id ∈ w.expanded ∨ id ∈ expandedIn log → id ∈ w'.expanded

namespace ExpandsOnce

variable {root root' : Identity → Prop} {w w₁ : TraitWalk} {log log' : List TraitEvent}
  {r : Except TraitError TraitWalk}

/-- Nothing happens. -/
theorem nil (root : Identity → Prop) (w : TraitWalk) : ExpandsOnce root w [] (.ok w) where
  nodup := List.nodup_nil
  fresh := by simp
  noted := by
    intro w' heq id hid
    cases heq
    exact hid.resolve_right fun hnil => nomatch hnil

/-- More packages may be roots. -/
theorem mono (h : ExpandsOnce root w log r) (hsub : ∀ id, root id → root' id) :
    ExpandsOnce root' w log r :=
  ⟨h.nodup, fun id hid => (h.fresh id hid).imp_left (hsub id), h.noted⟩

/-- A run goes on, with roots among those that it has begun with and that it has not expanded. -/
theorem append (h : ExpandsOnce root w log (.ok w₁)) (h' : ExpandsOnce root' w₁ log' r)
    (hsub : ∀ id, root' id → root id) (hleft : ∀ id, root' id → id ∉ expandedIn log) :
    ExpandsOnce root w (log ++ log') r := by
  have hgrows (id : Identity) (hid : id ∈ w.expanded) : id ∈ w₁.expanded :=
    h.noted w₁ rfl id (.inl hid)
  constructor
  · rw [expandedIn_append]
    refine List.nodup_append.2 ⟨h.nodup, h'.nodup, ?_⟩
    rintro a ha b hb rfl
    -- What has been expanded counts as expanded, and it is no root that is left.
    rcases h'.fresh a hb with hroot | hnot
    · exact hleft a hroot ha
    · exact hnot (h.noted w₁ rfl a (.inr ha))
  · intro id hid
    rw [expandedIn_append] at hid
    rcases List.mem_append.1 hid with hid | hid
    · exact h.fresh id hid
    · exact (h'.fresh id hid).imp (hsub id) fun hnot hold => hnot (hgrows id hold)
  · intro w' heq id hid
    apply h'.noted w' heq id
    rw [expandedIn_append] at hid
    rcases hid with hold | hid
    · exact .inl (hgrows id hold)
    · rcases List.mem_append.1 hid with hid | hid
      · exact .inl (h.noted w₁ rfl id (.inr hid))
      · exact .inr hid

/-- A request changes nothing. -/
theorem asked (h : ExpandsOnce root w₁ log r) (hw : w₁.expanded = w.expanded) {id : Identity}
    {request : Option Names} : ExpandsOnce root w (.asked id request :: log) r where
  nodup := h.nodup
  fresh := hw ▸ h.fresh
  noted := hw ▸ h.noted

/-- A package is entered, which is a root or has not been expanded.  It counts as expanded before
the run goes on. -/
theorem enter (h : ExpandsOnce root w₁ log r) {id : Identity}
    (hw : ∀ id', id' ∈ w₁.expanded ↔ id' = id ∨ id' ∈ w.expanded)
    (hid : root id ∨ id ∉ w.expanded) (hnew : id ∉ expandedIn log) {filter : ProductFilter}
    {traits : Names} : ExpandsOnce root w (.expanded id filter traits :: log) r := by
  constructor
  · rw [expandedIn_expanded]
    exact List.nodup_cons.2 ⟨hnew, h.nodup⟩
  · intro id' hid'
    rw [expandedIn_expanded] at hid'
    rcases List.mem_cons.1 hid' with rfl | hid'
    · exact hid
    · exact (h.fresh id' hid').imp_right fun hnot hold => hnot ((hw id').2 (.inr hold))
  · intro w' heq id' hid'
    rw [expandedIn_expanded] at hid'
    apply h.noted w' heq id'
    rcases hid' with hold | hid'
    · exact .inl ((hw id').2 (.inr hold))
    · exact (List.mem_cons.1 hid').imp_left fun heq => (hw id').2 (.inl heq)

/-- A root is entered, which counts as expanded already. -/
theorem enterRoot (h : ExpandsOnce root w log r) {id : Identity} (hroot : root id)
    (hid : id ∈ w.expanded) (hnew : id ∉ expandedIn log) {filter : ProductFilter}
    {traits : Names} : ExpandsOnce root w (.expanded id filter traits :: log) r :=
  h.enter (fun _ => (or_iff_right_of_imp (· ▸ hid)).symm) (.inl hroot) hnew

/-- Without roots, what has been expanded is not expanded again. -/
theorem skips (h : ExpandsOnce (fun _ => False) w log r) {id : Identity} (hid : id ∈ w.expanded) :
    id ∉ expandedIn log := by
  intro hmem
  rcases h.fresh id hmem with hroot | hnot
  · exact hroot
  · exact hnot hid

end ExpandsOnce

/-- A walk expands only packages that have not been expanded. -/
theorem WalksTo.expandsOnce {w : TraitWalk} {edges : List TraitEdge} {log : List TraitEvent}
    {r : Except TraitError TraitWalk} (h : WalksTo mirrors c w edges log r) :
    ExpandsOnce (fun _ => False) w log r := by
  induction h with
  | done w => exact .nil _ w
  | refused _ _ => exact ⟨List.nodup_nil, by simp, fun _ heq => nomatch heq⟩
  | absent _ _ ih => exact ih.asked (by rfl)
  | again _ _ _ _ ih => exact ih.asked (by rfl)
  | @first w id request rest log r m traits _ _ hmem _ ih =>
    -- The package counts as expanded before its edges are followed, so they do not enter it again.
    have hentered : ExpandsOnce (fun _ => False) w (.expanded id .everything traits :: log) r :=
      ih.enter (fun _ => by exact List.mem_cons) (.inr hmem) (ih.skips List.mem_cons_self)
    exact hentered.asked (by rfl)

/-- The walks from distinct roots, which count as expanded already, expand no package twice. -/
theorem RootsTo.expandsOnce {w : TraitWalk} {roots : List Identity} {log : List TraitEvent}
    {r : Except TraitError TraitWalk} (h : RootsTo mirrors c filter w roots log r)
    (hnodup : roots.Nodup) (hroots : ∀ id ∈ roots, c.has id = true → id ∈ w.expanded) :
    ExpandsOnce (fun id => id ∈ roots ∧ c.has id = true) w log r := by
  induction h with
  | done w => exact .nil _ w
  | absent _ _ ih =>
    have hrest := ih (List.nodup_cons.1 hnodup).2
      fun id hid => hroots id (List.mem_cons_of_mem _ hid)
    exact hrest.mono fun id hid => ⟨List.mem_cons_of_mem _ hid.1, hid.2⟩
  | @refused w id _ log m _ hm hwalk =>
    have hhas : c.has id = true := Catalog.has_iff.2 ⟨m, hm⟩
    have hid : id ∈ w.expanded := hroots id List.mem_cons_self hhas
    have hnew := hwalk.expandsOnce
    exact (hnew.mono fun _ => False.elim).enterRoot ⟨List.mem_cons_self, hhas⟩ hid (hnew.skips hid)
  | @root w w₁ id rest log log' r m hm hwalk _ ih =>
    have hhas : c.has id = true := Catalog.has_iff.2 ⟨m, hm⟩
    have hid : id ∈ w.expanded := hroots id List.mem_cons_self hhas
    obtain ⟨hnotin, hrest⟩ := List.nodup_cons.1 hnodup
    have hnew := hwalk.expandsOnce
    have hgrows (id' : Identity) (hid' : id' ∈ w.expanded) : id' ∈ w₁.expanded :=
      hnew.noted w₁ rfl id' (.inl hid')
    have hlater := ih hrest
      fun id' hid' h' => hgrows id' (hroots id' (List.mem_cons_of_mem _ hid') h')
    have hfirst : ExpandsOnce (fun id' => id' ∈ id :: rest ∧ c.has id' = true) w log (.ok w₁) :=
      hnew.mono fun _ => False.elim
    -- The walk from a root comes to no other root for the first time.
    have hboth := hfirst.append hlater
      (fun id' hid' => ⟨List.mem_cons_of_mem _ hid'.1, hid'.2⟩)
      fun id' hid' => hnew.skips (hroots id' (List.mem_cons_of_mem _ hid'.1) hid'.2)
    refine hboth.enterRoot ⟨List.mem_cons_self, hhas⟩ hid fun hmem => ?_
    rw [expandedIn_append] at hmem
    rcases List.mem_append.1 hmem with hmem | hmem
    · exact hnew.skips hid hmem
    · rcases hlater.fresh id hmem with hroot | hnot
      · exact hnotin hroot.1
      · exact hnot (hgrows id hid)

/-- The roots with manifests count as expanded when they have been asked. -/
theorem expanded_askRoot {roots : List Identity} {w asked : TraitWalk}
    (h : roots.foldlM (askRoot c selection) w = .ok asked) :
    ∀ id ∈ roots, c.has id = true → id ∈ asked.expanded := by
  have hgrows := Except.foldlM_forall (fun v v' => ∀ id ∈ v.expanded, id ∈ v'.expanded)
    (fun id v => c.has id = true → id ∈ v.expanded) (fun _ _ hid => hid)
    (fun _ _ _ h h' id hid => h' id (h id hid)) (fun _ _ _ hdone hmore hhas => hmore _ (hdone hhas))
    (fun id _ v v' hask => ?_) h
  · exact hgrows.2
  · -- A root without a manifest is passed over; any other is put among the expanded ones.
    rcases askRoot_ok hask with ⟨hm, rfl⟩ | ⟨m, traits, hm, -, rfl⟩
    · refine ⟨fun _ hid => hid, fun hhas => ?_⟩
      obtain ⟨m, hm'⟩ := Catalog.has_iff.1 hhas
      rw [hm] at hm'
      exact nomatch hm'
    · exact ⟨fun _ hid => List.mem_cons_of_mem _ hid, fun _ => List.mem_cons_self⟩

end TraitWalk

/-- No package is expanded twice in a run. -/
theorem Resolves.nodup_expandedIn {log : List TraitEvent} {r : Except TraitError TraitWalk}
    (h : Resolves c mirrors extra selection filter log r) (hroots : c.roots.Nodup) :
    (expandedIn log).Nodup := by
  cases h with
  | refused _ => exact List.nodup_nil
  | roots hasked hwalks =>
    exact (hwalks.expandsOnce hroots (TraitWalk.expanded_askRoot hasked)).nodup
  | extra hasked hwalks hextra =>
    have hbefore := hwalks.expandsOnce hroots (TraitWalk.expanded_askRoot hasked)
    exact (hbefore.append hextra.expandsOnce (fun _ => False.elim) (fun _ => False.elim)).nodup

/-! ### What is enabled -/

/-- What is enabled for a package is what its record enables. -/
def TraitWalk.Agrees (c : Catalog) (w : TraitWalk) : Prop :=
  ∀ id traits, SortedMap.get? w.enabled id = some traits →
    ∃ m record, c.manifest? id = some m ∧ SortedMap.get? w.requested id = some record ∧
      m.enabledTraits record = .ok traits

/-- Every request keeps it so. -/
theorem TraitWalk.keeps_agrees (c : Catalog) : Keeps c (Agrees c) where
  start := fun _ _ h => nomatch h
  absent := by
    intro w id request hm hw id' traits' htraits'
    obtain ⟨m', record', hm', hrecord', henables⟩ := hw id' traits' htraits'
    -- The package that is asked has no manifest, so nothing is enabled for it.
    have hne : id' ≠ id := by
      rintro rfl
      rw [hm] at hm'
      exact nomatch hm'
    exact ⟨m', record', hm', (SortedMap.get?_put_of_ne _ _ hne).trans hrecord', henables⟩
  put := by
    intro w id m record traits expanded hm htraits hw id' traits' htraits'
    by_cases heq : id' = id
    · subst heq
      rw [SortedMap.get?_put_self] at htraits'
      cases htraits'
      exact ⟨m, record, hm, SortedMap.get?_put_self .., htraits⟩
    · rw [SortedMap.get?_put_of_ne _ _ heq] at htraits'
      obtain ⟨m', record', hm', hrecord', henables⟩ := hw id' traits' htraits'
      exact ⟨m', record', hm', (SortedMap.get?_put_of_ne _ _ heq).trans hrecord', henables⟩

end

/-- Trait resolution ends for every catalog of manifests with distinct roots, whatever packages lead
to each other or are missing, and no package is expanded twice in its run.  If it succeeds, every
package for which it has enabled traits has a manifest and a record, which in the end enables just
these traits; they are traits that the package declares, together with all that they imply. -/
theorem Catalog.walkTraits_settles (c : Catalog) (hroots : c.roots.Nodup) (mirrors : Mirrors)
    (extra : List Dependency) (selection : TraitSelection) (filter : ProductFilter) :
    (∃ log, Resolves c mirrors extra selection filter log
      (c.walkTraits mirrors extra selection filter)) ∧
    (∀ log r, Resolves c mirrors extra selection filter log r → (expandedIn log).Nodup) ∧
    ∀ w, c.walkTraits mirrors extra selection filter = .ok w →
      c.enabledTraits mirrors extra selection filter = .ok w.enabled ∧
      ∀ id traits, SortedMap.get? w.enabled id = some traits →
        ∃ m record, c.manifest? id = some m ∧ SortedMap.get? w.requested id = some record ∧
          m.enabledTraits record = .ok traits ∧
          (∀ name ∈ traits.toList, m.Owns name) ∧
          ∀ name ∈ traits.toList, ∀ name', m.Implies name name' → name' ∈ traits.toList := by
  refine ⟨c.exists_resolves mirrors extra selection filter,
    fun log r h => h.nodup_expandedIn hroots, fun w h => ⟨?_, fun id traits htraits => ?_⟩⟩
  · rw [Catalog.enabledTraits, h]
    rfl
  · obtain ⟨log, hrun⟩ := Catalog.exists_traitsRun h
    obtain ⟨m, record, hm, hrecord, henables⟩ :=
      hrun.keeps (TraitWalk.keeps_agrees c) id traits htraits
    obtain ⟨howned, hclosed⟩ := Manifest.enabledTraits_closed henables
    exact ⟨m, record, hm, hrecord, henables, howned, hclosed⟩

/-- Packages that lead to each other, to themselves, back to the root and to a package that is
missing.  When the second request reaches the kit, its dependencies have been entered
for the first. -/
def roundTrip : Catalog :=
  Catalog.ofList KeyedSet.empty
    [{ Manifest.bare (.root ⟨"app"⟩) "App" with
        dependencies := [.onRegistry "kit" (some ["Json"]), .onRegistry "missing" none]
        traits := [⟨"Cli", KeyedSet.empty, none⟩] },
      { Manifest.bare (.registry "kit") "Kit" with
        dependencies := [.onRegistry "base" none, .onRegistry "kit" none]
        traits := [⟨"Json", KeyedSet.empty, none⟩, ⟨"Tls", KeyedSet.ofList ["Net"], none⟩,
          ⟨"Net", KeyedSet.empty, none⟩] },
      { Manifest.bare (.registry "base") "Base" with
        dependencies := [.onRegistry "kit" (some ["Tls"]), .onRegistry "app" (some ["Cli"])] }]

/-- The late requests for the kit and for the root have part in what is enabled for them. -/
theorem walkTraits_settles_roundTrip :
    roundTrip.roots.Nodup ∧
    ∃ w log, roundTrip.walkTraits KeyedSet.empty [] .defaults .everything = .ok w ∧
      Resolves roundTrip KeyedSet.empty [] .defaults .everything log (.ok w) ∧
      (expandedIn log).Nodup ∧
      SortedMap.get? w.enabled ⟨"kit"⟩ = some (KeyedSet.ofList ["Json", "Net", "Tls"]) ∧
      SortedMap.get? w.enabled ⟨"app"⟩ = some (KeyedSet.ofList ["Cli"]) ∧
      ∃ m record, roundTrip.manifest? ⟨"kit"⟩ = some m ∧
        SortedMap.get? w.requested ⟨"kit"⟩ = some record ∧
        m.enabledTraits record = .ok (KeyedSet.ofList ["Json", "Net", "Tls"]) := by
  have hnodup : roundTrip.roots.Nodup := by decide +kernel
  have hany : ((roundTrip.walkTraits KeyedSet.empty [] .defaults .everything).toOption.any
      fun w => SortedMap.get? w.enabled ⟨"kit"⟩ == some (KeyedSet.ofList ["Json", "Net", "Tls"]) &&
        SortedMap.get? w.enabled ⟨"app"⟩ == some (KeyedSet.ofList ["Cli"])) = true := by
    decide +kernel
  obtain ⟨w, h, hboth⟩ := Except.exists_ok_of_any hany
  rw [Bool.and_eq_true, beq_iff_eq, beq_iff_eq] at hboth
  obtain ⟨⟨log, hlog⟩, hfresh, hsettles⟩ :=
    Catalog.walkTraits_settles roundTrip hnodup KeyedSet.empty [] .defaults .everything
  obtain ⟨m, record, hm, hrecord, henables, -⟩ := (hsettles w h).2 _ _ hboth.1
  rw [h] at hlog
  exact ⟨hnodup, w, log, h, hlog, hfresh log _ hlog, hboth.1, hboth.2, m, record, hm, hrecord,
    henables⟩

end ModuleGraph
