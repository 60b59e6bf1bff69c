import ModuleGraph.Graph.TraitRequests
import ModuleGraph.Proofs.KeyedSet
import ModuleGraph.Proofs.List
import ModuleGraph.Proofs.Loop
import ModuleGraph.Proofs.Outcome
import Mathlib.Algebra.BigOperators.Ring.List
import Mathlib.Algebra.Ring.Nat

/-!
# The run of trait resolution

`Walks` says which edges a walk follows and which packages it expands, event by event, without the
bound on its steps; `TraitsRun` puts the walks from the roots and from the extra dependencies
together.  `WalksTo` and `Resolves` say the same of work that may come to a request which cannot be
met.  The bound suffices, so all work has a log of events, whatever its outcome.

## Key results

- `TraitWalk.walk_ends`: a walk ends
- `TraitWalk.exists_walksTo`: every walk has a log
- `Catalog.exists_resolves`: so has trait resolution as a whole
- `Resolves.traitsRun`, `Catalog.exists_traitsRun`: the log of trait resolution that succeeds
- `TraitsRun.keeps`: what every request keeps holds in the end
-/

namespace ModuleGraph

/-- What happens when requests travel along dependencies. -/
inductive TraitEvent where
  /-- A dependency on the package is followed. -/
  | asked (id : Identity) (request : Option Names)
  /-- The dependencies of the package that the filter and the traits require are entered. -/
  | expanded (id : Identity) (filter : ProductFilter) (traits : Names)

/-- The requests for a package, in the order of a log. -/
def requestsTo (log : List TraitEvent) (id : Identity) : List (Option Names) :=
  log.filterMap fun
    | .asked id' request => if id' = id then some request else none
    | .expanded _ _ _ => none

namespace TraitWalk

/-- Notes the enabled traits of a package. -/
def enable (w : TraitWalk) (id : Identity) (traits : Names) : TraitWalk :=
  { w with enabled := SortedMap.put w.enabled id traits }

/-- Notes that a package is expanded. -/
def expand (w : TraitWalk) (id : Identity) : TraitWalk := { w with expanded := id :: w.expanded }

/-- A walk follows the pending edges and everything they lead to: the log of it, and where it
ends. -/
inductive Walks (mirrors : Mirrors) (c : Catalog) :
    TraitWalk → List TraitEdge → List TraitEvent → TraitWalk → Prop where
  | done (w : TraitWalk) : Walks mirrors c w [] [] w
  /-- The edge leads to a package without a manifest. -/
  | absent {w w' : TraitWalk} {id : Identity} {request : Option Names} {rest : List TraitEdge}
      {log : List TraitEvent} (hm : c.manifest? id = none)
      (hrest : Walks mirrors c (w.record id request) rest log w') :
      Walks mirrors c w ((id, request) :: rest) (.asked id request :: log) w'
  /-- The edge leads to a package that has been expanded. -/
  | again {w w' : TraitWalk} {id : Identity} {request : Option Names} {rest : List TraitEdge}
      {log : List TraitEvent} {m : Manifest} {traits : Names} (hm : c.manifest? id = some m)
      (htraits : m.enabledTraits ((w.record id request).requestOf id) = .ok traits)
      (hmem : id ∈ w.expanded)
      (hrest : Walks mirrors c ((w.record id request).enable id traits) rest log w') :
      Walks mirrors c w ((id, request) :: rest) (.asked id request :: log) w'
  /-- The edge leads to a package for the first time. -/
  | first {w w' : TraitWalk} {id : Identity} {request : Option Names} {rest : List TraitEdge}
      {log : List TraitEvent} {m : Manifest} {traits : Names} (hm : c.manifest? id = some m)
      (htraits : m.enabledTraits ((w.record id request).requestOf id) = .ok traits)
      (hmem : id ∉ w.expanded)
      (hrest : Walks mirrors c (((w.record id request).enable id traits).expand id)
        ((((w.record id request).enable id traits).expand id).edgesOf mirrors.identify id m
          .everything ++ rest) log w') :
      Walks mirrors c w ((id, request) :: rest)
        (.asked id request :: .expanded id .everything traits :: log) w'

/-- The walks from a list of roots. -/
inductive RootsWalk (mirrors : Mirrors) (c : Catalog) (filter : ProductFilter) :
    TraitWalk → List Identity → List TraitEvent → TraitWalk → Prop where
  | done (w : TraitWalk) : RootsWalk mirrors c filter w [] [] w
  | absent {w w' : TraitWalk} {id : Identity} {rest : List Identity} {log : List TraitEvent}
      (hm : c.manifest? id = none) (hrest : RootsWalk mirrors c filter w rest log w') :
      RootsWalk mirrors c filter w (id :: rest) log w'
  | root {w w₁ w' : TraitWalk} {id : Identity} {rest : List Identity} {log log' : List TraitEvent}
      {m : Manifest} (hm : c.manifest? id = some m)
      (hwalk : Walks mirrors c w (w.edgesOf mirrors.identify id m filter) log w₁)
      (hrest : RootsWalk mirrors c filter w₁ rest log' w') :
      RootsWalk mirrors c filter w (id :: rest)
        (.expanded id filter (w.enabled.of id) :: (log ++ log')) w'

end TraitWalk

/-- Trait resolution as a whole: the roots are asked, then the walks from the roots and from the
extra dependencies follow. -/
structure TraitsRun (c : Catalog) (mirrors : Mirrors) (extra : List Dependency)
    (selection : TraitSelection) (filter : ProductFilter) (log : List TraitEvent)
    (w : TraitWalk) : Prop where
  run : ∃ asked walked log₁ log₂,
    c.roots.foldlM (TraitWalk.askRoot c selection) TraitWalk.start = .ok asked ∧
    TraitWalk.RootsWalk mirrors c filter asked c.roots log₁ walked ∧
    TraitWalk.Walks mirrors c walked
      (extra.map fun d => (mirrors.identify d.origin, d.requestedTraits KeyedSet.empty)) log₂ w ∧
    log = log₁ ++ log₂

/-! ### Work that may fail -/

namespace TraitWalk

/-- A walk follows the pending edges and everything they lead to, until none is left or a request
cannot be met: the log of it, and its outcome. -/
inductive WalksTo (mirrors : Mirrors) (c : Catalog) :
    TraitWalk → List TraitEdge → List TraitEvent → Except TraitError TraitWalk → Prop where
  | done (w : TraitWalk) : WalksTo mirrors c w [] [] (.ok w)
  /-- The package cannot meet its requests. -/
  | refused {w : TraitWalk} {id : Identity} {request : Option Names} {rest : List TraitEdge}
      {m : Manifest} {e : TraitError} (hm : c.manifest? id = some m)
      (herror : m.enabledTraits ((w.record id request).requestOf id) = .error e) :
      WalksTo mirrors c w ((id, request) :: rest) [.asked id request] (.error e)
  /-- The edge leads to a package without a manifest. -/
  | absent {w : TraitWalk} {id : Identity} {request : Option Names} {rest : List TraitEdge}
      {log : List TraitEvent} {r : Except TraitError TraitWalk} (hm : c.manifest? id = none)
      (hrest : WalksTo mirrors c (w.record id request) rest log r) :
      WalksTo mirrors c w ((id, request) :: rest) (.asked id request :: log) r
  /-- The edge leads to a package that has been expanded. -/
  | again {w : TraitWalk} {id : Identity} {request : Option Names} {rest : List TraitEdge}
      {log : List TraitEvent} {r : Except TraitError TraitWalk} {m : Manifest} {traits : Names}
      (hm : c.manifest? id = some m)
      (htraits : m.enabledTraits ((w.record id request).requestOf id) = .ok traits)
      (hmem : id ∈ w.expanded)
      (hrest : WalksTo mirrors c ((w.record id request).enable id traits) rest log r) :
      WalksTo mirrors c w ((id, request) :: rest) (.asked id request :: log) r
  /-- The edge leads to a package for the first time. -/
  | first {w : TraitWalk} {id : Identity} {request : Option Names} {rest : List TraitEdge}
      {log : List TraitEvent} {r : Except TraitError TraitWalk} {m : Manifest} {traits : Names}
      (hm : c.manifest? id = some m)
      (htraits : m.enabledTraits ((w.record id request).requestOf id) = .ok traits)
      (hmem : id ∉ w.expanded)
      (hrest : WalksTo mirrors c (((w.record id request).enable id traits).expand id)
        ((((w.record id request).enable id traits).expand id).edgesOf mirrors.identify id m
          .everything ++ rest) log r) :
      WalksTo mirrors c w ((id, request) :: rest)
        (.asked id request :: .expanded id .everything traits :: log) r

/-- The walks from a list of roots, one after the other, until one of them fails. -/
inductive RootsTo (mirrors : Mirrors) (c : Catalog) (filter : ProductFilter) :
    TraitWalk → List Identity → List TraitEvent → Except TraitError TraitWalk → Prop where
  | done (w : TraitWalk) : RootsTo mirrors c filter w [] [] (.ok w)
  | absent {w : TraitWalk} {id : Identity} {rest : List Identity} {log : List TraitEvent}
      {r : Except TraitError TraitWalk} (hm : c.manifest? id = none)
      (hrest : RootsTo mirrors c filter w rest log r) :
      RootsTo mirrors c filter w (id :: rest) log r
  | refused {w : TraitWalk} {id : Identity} {rest : List Identity} {log : List TraitEvent}
      {m : Manifest} {e : TraitError} (hm : c.manifest? id = some m)
      (hwalk : WalksTo mirrors c w (w.edgesOf mirrors.identify id m filter) log (.error e)) :
      RootsTo mirrors c filter w (id :: rest)
        (.expanded id filter (w.enabled.of id) :: log) (.error e)
  | root {w w₁ : TraitWalk} {id : Identity} {rest : List Identity} {log log' : List TraitEvent}
      {r : Except TraitError TraitWalk} {m : Manifest} (hm : c.manifest? id = some m)
      (hwalk : WalksTo mirrors c w (w.edgesOf mirrors.identify id m filter) log (.ok w₁))
      (hrest : RootsTo mirrors c filter w₁ rest log' r) :
      RootsTo mirrors c filter w (id :: rest)
        (.expanded id filter (w.enabled.of id) :: (log ++ log')) r

end TraitWalk

/-- Trait resolution as a whole, with its log and its outcome: the roots are asked, then the walks
from the roots and from the extra dependencies follow, and the first of them that fails is the
last. -/
inductive Resolves (c : Catalog) (mirrors : Mirrors) (extra : List Dependency)
    (selection : TraitSelection) (filter : ProductFilter) :
    List TraitEvent → Except TraitError TraitWalk → Prop where
  | refused {e : TraitError}
      (hasked : c.roots.foldlM (TraitWalk.askRoot c selection) TraitWalk.start = .error e) :
      Resolves c mirrors extra selection filter [] (.error e)
  | roots {asked : TraitWalk} {log : List TraitEvent} {e : TraitError}
      (hasked : c.roots.foldlM (TraitWalk.askRoot c selection) TraitWalk.start = .ok asked)
      (hroots : TraitWalk.RootsTo mirrors c filter asked c.roots log (.error e)) :
      Resolves c mirrors extra selection filter log (.error e)
  | extra {asked walked : TraitWalk} {log log' : List TraitEvent}
      {r : Except TraitError TraitWalk}
      (hasked : c.roots.foldlM (TraitWalk.askRoot c selection) TraitWalk.start = .ok asked)
      (hroots : TraitWalk.RootsTo mirrors c filter asked c.roots log (.ok walked))
      (hextra : TraitWalk.WalksTo mirrors c walked
        (extra.map fun d => (mirrors.identify d.origin, d.requestedTraits KeyedSet.empty)) log' r) :
      Resolves c mirrors extra selection filter (log ++ log') r

/-! ### What is done at once -/

namespace TraitWalk

/-- What asking a root does. -/
theorem askRoot_ok {c : Catalog} {selection : TraitSelection} {w w' : TraitWalk} {id : Identity}
    (h : askRoot c selection w id = .ok w') :
    (c.manifest? id = none ∧ w' = w) ∨
      ∃ m traits, c.manifest? id = some m ∧
        m.enabledTraits (m.selectedTraits selection) = .ok traits ∧
        w' = ⟨SortedMap.put w.requested id (m.selectedTraits selection),
          SortedMap.put w.enabled id traits, id :: w.expanded⟩ := by
  unfold askRoot at h
  split at h
  · next hm =>
    cases h
    exact .inl ⟨hm, rfl⟩
  · next m hm =>
    obtain ⟨traits, htraits, h⟩ := Except.bind_eq_ok.1 h
    cases h
    exact .inr ⟨m, traits, hm, htraits, rfl⟩

/-! ### The bound on the edges suffices -/

/-- Dropping edges to the same package leaves no more edges. -/
theorem length_firstEdges_le (seen : List Identity) (edges : List TraitEdge) :
    (firstEdges seen edges).length ≤ edges.length := by
  induction edges generalizing seen with
  | nil => simp [firstEdges]
  | cons edge rest ih =>
    rw [firstEdges]
    split
    · exact Nat.le_succ_of_le (ih seen)
    · simpa using ih (edge.1 :: seen)

/-- A package has at most two edges for each of its dependencies. -/
theorem length_edgesOf_le (identify : Origin → Identity) (w : TraitWalk) (id : Identity)
    (m : Manifest) (filter : ProductFilter) :
    (w.edgesOf identify id m filter).length ≤ 2 * m.dependencies.length := by
  -- Every dependency is required at most once, and guarded at most once.
  have hrequired (traits : Names) :
      (m.requiredDependencies identify filter traits).length ≤ m.dependencies.length := by
    have h := List.length_filterMap_le (fun (p : Dependency × Nat) =>
      (Manifest.requirementAt? filter
        (m.usageOf identify traits (m.requiredModules filter traits)) p.2).map (p.1, ·))
      m.dependencies.zipIdx
    rwa [List.length_zipIdx] at h
  have hguarded (traits : Names) :
      (m.guardedDependencies identify traits).length ≤ m.dependencies.length := by
    unfold Manifest.guardedDependencies
    exact (List.length_filterMap_le _ _).trans_eq (by simp)
  unfold edgesOf
  refine (length_firstEdges_le _ _).trans ?_
  rw [List.length_map, List.length_append, List.length_map]
  have := hrequired (w.enabled.of id)
  have := hguarded (w.enabled.of id)
  omega

/-- The edges that may still be followed: the pending ones, and those of the packages that have not
been expanded. -/
def pending (c : Catalog) (s : TraitWalk × List TraitEdge) : Nat :=
  s.2.length + ((c.manifests.toList.filter fun entry => entry.1 ∉ s.1.expanded).map
    fun entry => 2 * entry.2.dependencies.length).sum

/-- What a step that goes on does. -/
theorem follow_next {mirrors : Mirrors} {c : Catalog} {w : TraitWalk} {pending : List TraitEdge}
    {s' : TraitWalk × List TraitEdge} (h : follow mirrors c (w, pending) = .next s') :
    ∃ id request rest, pending = (id, request) :: rest ∧
      ((c.manifest? id = none ∧ s' = (w.record id request, rest)) ∨
        ∃ m traits, c.manifest? id = some m ∧
          m.enabledTraits ((w.record id request).requestOf id) = .ok traits ∧
          ((id ∈ w.expanded ∧ s' = ((w.record id request).enable id traits, rest)) ∨
            (id ∉ w.expanded ∧
              s' = (((w.record id request).enable id traits).expand id,
                (((w.record id request).enable id traits).expand id).edgesOf mirrors.identify id m
                  .everything ++ rest)))) := by
  match pending with
  | [] => exact nomatch h
  | (id, request) :: rest =>
    refine ⟨id, request, rest, rfl, ?_⟩
    simp only [follow] at h
    split at h
    · next hm =>
      -- No manifest: the request is recorded, and that is all.
      cases h
      exact .inl ⟨hm, rfl⟩
    · next m hm =>
      split at h
      · cases h
      · next traits htraits =>
        refine .inr ⟨m, traits, hm, htraits, ?_⟩
        -- The traits are enabled in any case; recording has not changed what has been expanded.
        have hexpanded : (w.record id request).expanded = w.expanded := rfl
        split at h
        · next hmem =>
          cases h
          exact .inl ⟨by simpa [hexpanded] using hmem, rfl⟩
        · next hmem =>
          cases h
          exact .inr ⟨by simpa [hexpanded] using hmem, rfl⟩

/-- A walk ends only where no edges are left. -/
theorem follow_ok {mirrors : Mirrors} {c : Catalog} {w w' : TraitWalk} {pending : List TraitEdge}
    (h : follow mirrors c (w, pending) = .done (.ok w')) : pending = [] ∧ w' = w := by
  match pending with
  | [] => exact ⟨rfl, by cases h; rfl⟩
  | (id, request) :: rest =>
    simp only [follow] at h
    split at h
    · cases h
    · split at h
      · cases h
      · split at h <;> cases h

/-- A step that fails has come to a package that cannot meet its requests. -/
theorem follow_error {mirrors : Mirrors} {c : Catalog} {w : TraitWalk} {pending : List TraitEdge}
    {e : TraitError} (h : follow mirrors c (w, pending) = .done (.error e)) :
    ∃ id request rest m, pending = (id, request) :: rest ∧ c.manifest? id = some m ∧
      m.enabledTraits ((w.record id request).requestOf id) = .error e := by
  cases pending with
  | nil => cases h
  | cons edge rest =>
    obtain ⟨id, request⟩ := edge
    simp only [follow] at h
    split at h
    · cases h
    · next m hm =>
      split at h
      · next e' herror =>
        cases h
        exact ⟨id, request, rest, m, rfl, hm, herror⟩
      · split at h <;> cases h

/-- With every step fewer edges are left. -/
theorem pending_follow {mirrors : Mirrors} {c : Catalog} {s s' : TraitWalk × List TraitEdge}
    (h : follow mirrors c s = .next s') : pending c s' < pending c s := by
  obtain ⟨w, edges⟩ := s
  obtain ⟨id, request, rest, rfl, ⟨-, rfl⟩ | ⟨m, traits, hm, -, ⟨-, rfl⟩ | ⟨hmem, rfl⟩⟩⟩ :=
    follow_next h
  · exact Nat.add_lt_add_right (Nat.lt_succ_self rest.length) _
  · exact Nat.add_lt_add_right (Nat.lt_succ_self rest.length) _
  · -- The package leaves those that have not been expanded, with the weight of its dependencies.
    have hsum := List.sum_filter_add_le c.manifests.toList
      (fun entry => 2 * entry.2.dependencies.length) (fun entry => entry.1 ∉ w.expanded)
      (fun entry => entry.1 ∉ id :: w.expanded) (fun entry _ h => by simp at h ⊢; exact h.2)
      (id, m) (SortedMap.get?_eq_some_iff.1 hm) (by simpa using hmem) (by simp)
    have hlen := length_edgesOf_le mirrors.identify
      (((w.record id request).enable id traits).expand id) id m .everything
    have hexpanded : (((w.record id request).enable id traits).expand id).expanded =
        id :: w.expanded := rfl
    simp only [pending, hexpanded, List.length_append, List.length_cons] at hsum hlen ⊢
    omega

/-- A walk ends, whatever packages lead to each other: its bound suffices. -/
theorem walk_ends (mirrors : Mirrors) (c : Catalog) (w : TraitWalk) (edges : List TraitEdge) :
    Loop.Ends (follow mirrors c) (w, edges) (walk mirrors c w edges) := by
  -- At first every package may still have to be expanded, which the bound allows for.
  have hbound : pending c (w, edges) < walkBound c edges := by
    have hsum := List.sum_filter_le c.manifests.toList
      (fun entry => 2 * entry.2.dependencies.length) (fun _ => true)
      (fun entry => entry.1 ∉ w.expanded) (fun _ _ _ => rfl)
    have htotal : (c.manifests.toList.map fun entry => 2 * entry.2.dependencies.length).sum =
        2 * (c.manifests.toList.flatMap fun entry => entry.2.dependencies).length := by
      rw [List.length_flatMap]
      exact List.sum_map_mul_left ..
    rw [List.filter_true, htotal] at hsum
    simp only [pending, walkBound]
    omega
  exact Loop.ends_getD (pending c) (fun _ _ => pending_follow) hbound _

/-! ### Every run has a log -/

/-- Every walk has a log. -/
theorem exists_walksTo (mirrors : Mirrors) (c : Catalog) (w : TraitWalk)
    (edges : List TraitEdge) : ∃ log, WalksTo mirrors c w edges log (walk mirrors c w edges) := by
  obtain ⟨n, hn⟩ := walk_ends mirrors c w edges
  generalize walk mirrors c w edges = r at hn
  -- Induction on the steps: each step that goes on is an event of the log.
  induction n generalizing w edges with
  | zero => exact nomatch hn
  | succ n ih =>
    rw [Loop.run] at hn
    split at hn
    · next s' hstep =>
      obtain ⟨id, request, rest, rfl, ⟨hm, rfl⟩ | ⟨m, traits, hm, htraits, ⟨hmem, rfl⟩ |
        ⟨hmem, rfl⟩⟩⟩ := follow_next hstep
      · obtain ⟨log, hlog⟩ := ih _ _ hn
        exact ⟨_, .absent hm hlog⟩
      · obtain ⟨log, hlog⟩ := ih _ _ hn
        exact ⟨_, .again hm htraits hmem hlog⟩
      · obtain ⟨log, hlog⟩ := ih _ _ hn
        exact ⟨_, .first hm htraits hmem hlog⟩
    · next r' hstep =>
      cases hn
      cases r with
      | error e =>
        obtain ⟨id, request, rest, m, rfl, hm, herror⟩ := follow_error hstep
        exact ⟨_, .refused hm herror⟩
      | ok w' =>
        obtain ⟨rfl, rfl⟩ := follow_ok hstep
        exact ⟨[], .done _⟩

/-- So have the walks from the roots. -/
theorem exists_rootsTo (mirrors : Mirrors) (c : Catalog) (filter : ProductFilter)
    (w : TraitWalk) (roots : List Identity) :
    ∃ log, RootsTo mirrors c filter w roots log (roots.foldlM (walkRoot mirrors c filter) w) := by
  induction roots generalizing w with
  | nil => exact ⟨[], .done w⟩
  | cons id rest ih =>
    rw [List.foldlM_cons]
    cases hm : c.manifest? id with
    -- A root without a manifest is passed over.
    | none =>
      have hroot : walkRoot mirrors c filter w id = .ok w := by simp [walkRoot, hm]
      obtain ⟨log, hlog⟩ := ih w
      rw [hroot]
      exact ⟨log, .absent hm hlog⟩
    -- A root is walked from, and the rest only if that walk is not refused.
    | some m =>
      have hroot : walkRoot mirrors c filter w id =
          walk mirrors c w (w.edgesOf mirrors.identify id m filter) := by simp [walkRoot, hm]
      obtain ⟨log, hwalk⟩ := exists_walksTo mirrors c w (w.edgesOf mirrors.identify id m filter)
      rw [hroot]
      cases hresult : walk mirrors c w (w.edgesOf mirrors.identify id m filter) with
      | error e =>
        rw [hresult] at hwalk
        exact ⟨_, .refused hm hwalk⟩
      | ok w₁ =>
        rw [hresult] at hwalk
        obtain ⟨log', hlog'⟩ := ih w₁
        exact ⟨_, .root hm hwalk hlog'⟩

section
variable {mirrors : Mirrors} {c : Catalog} {w w' : TraitWalk} {log : List TraitEvent}

/-- A walk that succeeds follows every edge. -/
theorem WalksTo.walks {edges : List TraitEdge} (h : WalksTo mirrors c w edges log (.ok w')) :
    Walks mirrors c w edges log w' := by
  generalize hr : (Except.ok w' : Except TraitError TraitWalk) = r at h
  induction h with
  | done w =>
    cases hr
    exact .done w'
  | refused _ _ => cases hr
  | absent hm _ ih => exact .absent hm (ih hr)
  | again hm htraits hmem _ ih => exact .again hm htraits hmem (ih hr)
  | first hm htraits hmem _ ih => exact .first hm htraits hmem (ih hr)

/-- If the walks from the roots succeed, every one of them does. -/
theorem RootsTo.rootsWalk {filter : ProductFilter} {roots : List Identity}
    (h : RootsTo mirrors c filter w roots log (.ok w')) :
    RootsWalk mirrors c filter w roots log w' := by
  generalize hr : (Except.ok w' : Except TraitError TraitWalk) = r at h
  induction h with
  | done w =>
    cases hr
    exact .done w'
  | absent hm _ ih => exact .absent hm (ih hr)
  | refused _ _ => cases hr
  | root hm hwalk _ ih => exact .root hm hwalk.walks (ih hr)

end

end TraitWalk

section
variable {c : Catalog} {mirrors : Mirrors} {extra : List Dependency} {selection : TraitSelection}
  {filter : ProductFilter}

/-- Trait resolution that succeeds follows every walk. -/
theorem Resolves.traitsRun {log : List TraitEvent} {w : TraitWalk}
    (h : Resolves c mirrors extra selection filter log (.ok w)) :
    TraitsRun c mirrors extra selection filter log w := by
  cases h with
  | extra hasked hroots hextra =>
    exact ⟨_, _, _, _, hasked, hroots.rootsWalk, hextra.walks, rfl⟩

end

/-- Trait resolution has a log, with what the bounded walks give. -/
theorem Catalog.exists_resolves (c : Catalog) (mirrors : Mirrors) (extra : List Dependency)
    (selection : TraitSelection) (filter : ProductFilter) :
    ∃ log, Resolves c mirrors extra selection filter log
      (c.walkTraits mirrors extra selection filter) := by
  unfold Catalog.walkTraits
  cases hasked : c.roots.foldlM (TraitWalk.askRoot c selection) TraitWalk.start with
  -- The request for a root is refused, so nothing is walked.
  | error e => exact ⟨[], .refused hasked⟩
  | ok asked =>
    obtain ⟨log, hroots⟩ := TraitWalk.exists_rootsTo mirrors c filter asked c.roots
    cases hwalked : c.roots.foldlM (TraitWalk.walkRoot mirrors c filter) asked with
    | error e =>
      rw [hwalked] at hroots
      simp only [bind, Except.bind, hwalked]
      exact ⟨log, .roots hasked hroots⟩
    | ok walked =>
      rw [hwalked] at hroots
      simp only [bind, Except.bind, hwalked]
      -- The further dependencies are walked from what the roots have left.
      obtain ⟨log', hextra⟩ := TraitWalk.exists_walksTo mirrors c walked
        (extra.map fun d => (mirrors.identify d.origin, d.requestedTraits KeyedSet.empty))
      exact ⟨log ++ log', .extra hasked hroots hextra⟩

/-- Trait resolution that succeeds has a log. -/
theorem Catalog.exists_traitsRun {c : Catalog} {mirrors : Mirrors} {extra : List Dependency}
    {selection : TraitSelection} {filter : ProductFilter} {w : TraitWalk}
    (h : c.walkTraits mirrors extra selection filter = .ok w) :
    ∃ log, TraitsRun c mirrors extra selection filter log w := by
  obtain ⟨log, hlog⟩ := c.exists_resolves mirrors extra selection filter
  rw [h] at hlog
  exact ⟨log, hlog.traitsRun⟩

/-! ### What every request keeps -/

/-- A property holds at first and is kept when a package is asked: either it has no manifest, or its
traits are worked out from its record.  The packages that are expanded have no part in it. -/
structure TraitWalk.Keeps (c : Catalog) (inv : TraitWalk → Prop) : Prop where
  start : inv TraitWalk.start
  absent : ∀ w id request, c.manifest? id = none → inv w → inv (w.record id request)
  put : ∀ w id m record traits expanded, c.manifest? id = some m →
    m.enabledTraits record = .ok traits → inv w →
    inv ⟨SortedMap.put w.requested id record, SortedMap.put w.enabled id traits, expanded⟩

namespace TraitWalk.Keeps

variable {c : Catalog} {inv : TraitWalk → Prop} {mirrors : Mirrors} {w w' : TraitWalk}

/-- A package is asked, and its traits are worked out from the record as it is then. -/
theorem enable (h : Keeps c inv) {id : Identity} {m : Manifest} {request : Option Names}
    {traits : Names} (hm : c.manifest? id = some m)
    (htraits : m.enabledTraits ((w.record id request).requestOf id) = .ok traits) (hw : inv w)
    (expanded : List Identity) :
    inv { (w.record id request).enable id traits with expanded } := by
  have hrecord : (w.record id request).requestOf id =
      mergeRequest (SortedMap.get? w.requested id) request := by
    unfold requestOf record SortedMap.getD
    rw [SortedMap.get?_put_self, Option.getD_some]
  rw [hrecord] at htraits
  exact h.put w id m _ traits expanded hm htraits hw

/-- A walk keeps the property. -/
theorem walks (h : Keeps c inv) {edges : List TraitEdge} {log : List TraitEvent}
    (hwalk : Walks mirrors c w edges log w') (hw : inv w) : inv w' := by
  induction hwalk with
  | done w => exact hw
  | absent hm _ ih => exact ih (h.absent _ _ _ hm hw)
  | again hm htraits _ _ ih => exact ih (h.enable hm htraits hw _)
  | first hm htraits _ _ ih => exact ih (h.enable hm htraits hw _)

/-- The walks from the roots keep the property. -/
theorem rootsWalk (h : Keeps c inv) {filter : ProductFilter} {roots : List Identity}
    {log : List TraitEvent} (hroots : RootsWalk mirrors c filter w roots log w') (hw : inv w) :
    inv w' := by
  induction hroots with
  | done w => exact hw
  | absent _ _ ih => exact ih hw
  | root _ hwalk _ ih => exact ih (h.walks hwalk hw)

/-- The property holds when the roots have been asked. -/
theorem askRoots (h : Keeps c inv) {selection : TraitSelection} {roots : List Identity}
    (hasked : roots.foldlM (askRoot c selection) TraitWalk.start = .ok w) : inv w := by
  refine Except.foldlM_inv inv (fun root _ v v' hv hask => ?_) h.start hasked
  rcases askRoot_ok hask with ⟨-, rfl⟩ | ⟨m, traits, hm, htraits, rfl⟩
  · exact hv
  · exact h.put v root m _ traits _ hm htraits hv

end TraitWalk.Keeps

/-- What every request keeps holds in the end. -/
theorem TraitsRun.keeps {c : Catalog} {mirrors : Mirrors} {extra : List Dependency}
    {selection : TraitSelection} {filter : ProductFilter} {log : List TraitEvent} {w : TraitWalk}
    (h : TraitsRun c mirrors extra selection filter log w) {inv : TraitWalk → Prop}
    (hkeeps : TraitWalk.Keeps c inv) : inv w := by
  obtain ⟨asked, walked, log₁, log₂, hasked, hroots, hextra, -⟩ := h.run
  exact hkeeps.walks hextra (hkeeps.rootsWalk hroots (hkeeps.askRoots hasked))

end ModuleGraph
