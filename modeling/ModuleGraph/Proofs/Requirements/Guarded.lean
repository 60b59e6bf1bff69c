import ModuleGraph.Graph.TraitRequests
import ModuleGraph.Proofs.Requirements.Exact

/-!
# Dependencies that are asked for by traits alone

Trait resolution follows what a manifest requires, and after that the dependencies all references to
which have to be asked for by traits.  The two lists are made from the same references by different
rules: one leaves out what only disabled references match, the other one asks for an enabled
reference and for none that is always there.  When everything is needed, an enabled reference is
enough for the first list, so the second one has nothing new.

## Key results

- `mem_guardedDependencies`: which dependencies are asked for by traits alone
- `guardedDependencies_sublist`: they are required when everything is needed
- `TraitWalk.firstEdges_append`: further edges to the same packages are dropped
- `guardedDependencies_add_nothing`: trait resolution follows the required dependencies alone
-/

namespace ModuleGraph

namespace TraitWalk

/-- No edge is left if each of them leads to a package that has had its edge. -/
theorem firstEdges_eq_nil {seen : List Identity} {edges : List TraitEdge}
    (h : ∀ edge ∈ edges, edge.1 ∈ seen) : firstEdges seen edges = [] := by
  induction edges with
  | nil => rfl
  | cons edge rest ih =>
    rw [firstEdges, if_pos (by simpa using h edge List.mem_cons_self)]
    exact ih fun e he => h e (List.mem_cons_of_mem _ he)

/-- Further edges are dropped if they lead to packages that have an edge already. -/
theorem firstEdges_append {seen : List Identity} {edges more : List TraitEdge}
    (h : ∀ e ∈ more, e.1 ∈ seen ∨ e.1 ∈ edges.map (·.1)) :
    firstEdges seen (edges ++ more) = firstEdges seen edges := by
  induction edges generalizing seen with
  | nil => exact firstEdges_eq_nil fun e he => (h e he).resolve_right (by simp)
  | cons edge rest ih =>
    simp only [List.map_cons, List.mem_cons] at h
    rw [List.cons_append, firstEdges, firstEdges]
    split
    · next hseen =>
      -- The first edge is dropped, since its package has been seen.
      refine ih fun e he => ?_
      rcases h e he with hold | heq | hrest
      · exact .inl hold
      · exact .inl (by simpa [heq] using hseen)
      · exact .inr hrest
    · -- It is kept, and its package has been seen from now on.
      refine congrArg (edge :: ·) (ih fun e he => ?_)
      rcases h e he with hold | heq | hrest
      · exact .inl (List.mem_cons_of_mem _ hold)
      · exact .inl (heq ▸ List.mem_cons_self)
      · exact .inr hrest

end TraitWalk

namespace Manifest

/-- The dependency at a position is asked for by traits alone: every reference that matches it has
to be asked for by a trait, and one of them is. -/
structure Guarded (m : Manifest) (identify : Origin → Identity) (traits : Names) (i : Nat) :
    Prop where
  guarded : ∀ d ∈ m.references, m.Matches identify d i → d.isTraitGuarded = true
  enabled : ∃ d ∈ m.references, d.enabledBy traits = true ∧ m.Matches identify d i

section
variable {m : Manifest} {identify : Origin → Identity} {traits : Names} {i : Nat} {dep : Dependency}

/-- What is asked of the references that mean a position. -/
theorem guarded_iff {meant : List ModuleDependency}
    (hmeant : meant = m.references.filter fun d => m.dependencyIndex? identify d == some i) :
    (!meant.isEmpty && meant.all (·.isTraitGuarded) && meant.any (·.enabledBy traits)) = true ↔
      m.Guarded identify traits i := by
  have hmem (d : ModuleDependency) : d ∈ meant ↔ d ∈ m.references ∧ m.Matches identify d i := by
    rw [hmeant, List.mem_filter, beq_iff_eq, dependencyIndex?_eq_some]
  simp only [Bool.and_eq_true, List.all_eq_true, List.any_eq_true, hmem]
  constructor
  · rintro ⟨⟨-, hguarded⟩, d, ⟨hd, hmatch⟩, hen⟩
    exact ⟨fun d hd hmatch => hguarded d ⟨hd, hmatch⟩, d, hd, hen, hmatch⟩
  · rintro ⟨hguarded, d, hd, hen, hmatch⟩
    have hne : meant ≠ [] := List.ne_nil_of_mem ((hmem d).2 ⟨hd, hmatch⟩)
    exact ⟨⟨by simpa using hne, fun d ⟨hd, hmatch⟩ => hguarded d hd hmatch⟩,
      d, ⟨hd, hmatch⟩, hen⟩

/-- The dependencies that are asked for by traits alone. -/
theorem mem_guardedDependencies :
    dep ∈ m.guardedDependencies identify traits ↔
      ∃ i, m.dependencies[i]? = some dep ∧ m.Guarded identify traits i := by
  unfold guardedDependencies
  simp only [List.mem_filterMap, Prod.exists, List.mk_mem_zipIdx_iff_getElem?,
    Option.ite_none_right_eq_some, Option.some.injEq, guarded_iff rfl]
  constructor
  · rintro ⟨_, i, hdep, hguarded, rfl⟩
    exact ⟨i, hdep, hguarded⟩
  · rintro ⟨i, hdep, hguarded⟩
    exact ⟨dep, i, hdep, hguarded, rfl⟩

/-- When everything is needed, everything is required of a dependency that is asked for by
traits. -/
theorem Guarded.requirement?_eq (h : m.Guarded identify traits i) :
    m.requirement? identify traits .everything i = some .everything := by
  cases hreq : m.requirement? identify traits .everything i with
  | some f => rw [eq_everything_of_requirement? hreq]
  | none => exact absurd h.enabled (requirement?_everything_eq_none.1 hreq).2

/-- The dependencies that are asked for by traits alone are required, in their order, when
everything is needed. -/
theorem guardedDependencies_sublist (m : Manifest) (identify : Origin → Identity) (traits : Names) :
    ((m.guardedDependencies identify traits).map (·, ProductFilter.everything)).Sublist
      (m.requiredDependencies identify .everything traits) := by
  unfold guardedDependencies
  rw [List.map_filterMap]
  -- Both lists go through the positions, so it is enough to look at one of them.
  refine List.filterMap_sublist_filterMap fun ⟨dep, i⟩ _ r hr => ?_
  obtain ⟨dep', hkept, rfl⟩ := Option.map_eq_some_iff.1 hr
  obtain ⟨hguarded, hdep⟩ := Option.ite_none_right_eq_some.1 hkept
  have hreq := ((guarded_iff rfl).1 hguarded).requirement?_eq
  exact Option.map_eq_some_iff.2 ⟨.everything, hreq, by rw [← Option.some.inj hdep]⟩

end

/-- The dependencies that are asked for by traits alone are those that an enabled reference matches
and no reference that is always there.  They are all required when everything is needed, in the same
order.  So they add no edge where trait resolution follows what is required for everything. -/
theorem guardedDependencies_add_nothing (m : Manifest) (identify : Origin → Identity)
    (traits : Names) :
    (∀ dep, dep ∈ m.guardedDependencies identify traits ↔
      ∃ i, m.dependencies[i]? = some dep ∧ m.Guarded identify traits i) ∧
    (∀ dep ∈ m.guardedDependencies identify traits,
      (dep, .everything) ∈ m.requiredDependencies identify .everything traits) ∧
    ((m.guardedDependencies identify traits).map (·, ProductFilter.everything)).Sublist
      (m.requiredDependencies identify .everything traits) ∧
    ∀ (w : TraitWalk) (id : Identity), w.enabled.of id = traits →
      w.edgesOf identify id m .everything =
        TraitWalk.firstEdges [] ((m.requiredDependencies identify .everything traits).map
          fun r => (identify r.1.origin, r.1.requestedTraits traits)) := by
  have hsub := m.guardedDependencies_sublist identify traits
  have hrequired : ∀ dep ∈ m.guardedDependencies identify traits,
      (dep, .everything) ∈ m.requiredDependencies identify .everything traits :=
    fun dep hdep => hsub.subset (List.mem_map_of_mem hdep)
  refine ⟨fun dep => mem_guardedDependencies, hrequired, hsub, ?_⟩
  rintro w id rfl
  unfold TraitWalk.edgesOf
  dsimp only
  rw [List.map_append, List.map_map]
  refine TraitWalk.firstEdges_append fun e he => .inr ?_
  -- The package of the edge has one for the same dependency, which is required.
  obtain ⟨dep, hdep, rfl⟩ := List.mem_map.1 he
  rw [List.map_map]
  exact List.mem_map_of_mem (f := fun r : Dependency × ProductFilter => identify r.1.origin)
    (hrequired dep hdep)

/-- A package that refers to `tools` for the trait `Tls` only, to `docs` for the same trait and for
no trait at all, which is never, and to `logs` for another trait. -/
def lintedApp : Manifest :=
  { bare (.root ⟨"/app"⟩) "App" with
    modules := [⟨"App", .library, none,
      [⟨.product "Net" (some "kit") KeyedSet.empty, none⟩,
        ⟨.product "Lint" (some "tools") KeyedSet.empty,
          some ⟨none, none, some (KeyedSet.ofList ["Tls"])⟩⟩,
        ⟨.product "Guide" (some "docs") KeyedSet.empty,
          some ⟨none, none, some (KeyedSet.ofList ["Tls"])⟩⟩,
        ⟨.product "Index" (some "docs") KeyedSet.empty, some ⟨none, none, some KeyedSet.empty⟩⟩,
        ⟨.product "Log" (some "logs") KeyedSet.empty,
          some ⟨none, none, some (KeyedSet.ofList ["Trace"])⟩⟩]⟩]
    dependencies := [.onRegistry "kit" none, .onRegistry "tools" none, .onRegistry "docs" none,
      .onRegistry "logs" none]
    traits := [⟨"Tls", KeyedSet.empty, none⟩, ⟨"Trace", KeyedSet.empty, none⟩] }

/-- A walk that has enabled `Tls` for the package. -/
def withTls : TraitWalk :=
  { TraitWalk.start with
    enabled := SortedMap.put KeyedSet.empty ⟨"app"⟩ (KeyedSet.ofList ["Tls"]) }

/-- With `Tls`, `tools` alone is asked for by traits alone.  It is required anyway, and so are `kit`
and `docs`. -/
theorem guardedDependencies_add_nothing_lintedApp :
    lintedApp.guardedDependencies (Mirrors.identify KeyedSet.empty) (KeyedSet.ofList ["Tls"]) =
      [.onRegistry "tools" none] ∧
    (.onRegistry "tools" none, .everything) ∈
      lintedApp.requiredDependencies (Mirrors.identify KeyedSet.empty) .everything
        (KeyedSet.ofList ["Tls"]) ∧
    withTls.enabled.of ⟨"app"⟩ = KeyedSet.ofList ["Tls"] ∧
    withTls.edgesOf (Mirrors.identify KeyedSet.empty) ⟨"app"⟩ lintedApp .everything =
      [(⟨"kit"⟩, none), (⟨"tools"⟩, none), (⟨"docs"⟩, none)] := by
  obtain ⟨-, hrequired, -, hedges⟩ :=
    guardedDependencies_add_nothing lintedApp (Mirrors.identify KeyedSet.empty)
      (KeyedSet.ofList ["Tls"])
  have hguarded : lintedApp.guardedDependencies (Mirrors.identify KeyedSet.empty)
      (KeyedSet.ofList ["Tls"]) = [.onRegistry "tools" none] := by
    decide +kernel
  have htraits : withTls.enabled.of ⟨"app"⟩ = KeyedSet.ofList ["Tls"] := by decide +kernel
  refine ⟨hguarded, hrequired _ (by rw [hguarded]; exact List.mem_cons_self), htraits, ?_⟩
  rw [hedges withTls ⟨"app"⟩ htraits]
  decide +kernel

end Manifest

end ModuleGraph
