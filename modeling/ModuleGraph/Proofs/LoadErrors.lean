import ModuleGraph.Proofs.Assembly.Errors
import ModuleGraph.Proofs.Load
import ModuleGraph.Proofs.PackageCycles
import ModuleGraph.Proofs.Validity

/-!
# Why no graph can be made

A load goes through its stages one after the other, and each of them has errors of its own: those of
traits, of discovery, of package cycles, of assembly, of the checks of what has been assembled, and
the one of a walk that meets a cycle which should have been found.  So the error of a load tells the
stage, and what the stage worked with.

## Key results

- `Source.fails_of_load`: the errors of a load
-/

namespace ModuleGraph.Source

/-- The errors of a load, stage by stage. -/
inductive Fails (s : Source) : GraphError → Prop
  /-- A package is asked for traits that it cannot enable. -/
  | traits (e : TraitError) : Fails s (.package (.traits e))
  /-- Two declarations contradict each other. -/
  | discovery {traits : EnabledTraits} {e : PackageError}
      (h : s.catalog.discover s.mirrors traits s.rootDependencies s.options.filter = .error e) :
      Fails s (.package e)
  /-- Packages depend on each other in a cycle. -/
  | packageCycle (w : Cycle Identity) : Fails s (Discovery.cycleError s.catalog w)
  /-- The packages that were found cannot be assembled. -/
  | assembly {traits : EnabledTraits} {d : Discovery} {e : PackageError}
      (htraits : s.enabledTraits = .ok traits) (hdiscover : s.discover traits = .ok d)
      (h : (s.assembly traits d).Fails e) : Fails s (.package e)
  /-- What has been assembled is no valid graph. -/
  | check {a : Assembly.Assembled} {e : PackageError} (ha : s.Assembles a) (h : a.FirstFault e) :
      Fails s (.package e)
  /-- A walk meets a cycle that the checks have missed. -/
  | unexpectedCycle : Fails s .unexpectedCycle

/-- A graph that cannot be made of assembled packages is missed for a cycle. -/
theorem graphOf_error {s : Source} {parts : Parts} {e : GraphError}
    (h : s.graphOf parts = .error e) : e = .unexpectedCycle := by
  unfold graphOf Graph.ofPackages Lookup.closure at h
  rcases Except.bind_eq_error.1 h with h | ⟨_, -, h⟩
  · obtain ⟨_, -, heq⟩ := Except.mapError_eq_error.1 h
    exact heq
  · exact nomatch h

/-- A load fails for one of these reasons. -/
theorem fails_of_load {s : Source} {e : GraphError} (h : s.load.result = .error e) : s.Fails e := by
  rw [load_eq] at h
  rcases Except.bind_eq_error.1 h with h | ⟨parts, hparts, h⟩
  · -- The stages up to assembly, each of which has what those before it have made.
    unfold assembled at h
    rcases Except.bind_eq_error.1 h with h | ⟨traits, htraits, h⟩
    · obtain ⟨e', -, rfl⟩ := Except.mapError_eq_error.1 h
      exact .traits e'
    rcases Except.bind_eq_error.1 h with h | ⟨d, hdiscover, h⟩
    · obtain ⟨e', hdiscover, rfl⟩ := Except.mapError_eq_error.1 h
      exact .discovery hdiscover
    rcases Except.bind_eq_error.1 h with h | ⟨_, -, h⟩
    · obtain ⟨w, rfl⟩ := Discovery.exists_cycleError h
      exact .packageCycle w
    rcases Except.bind_eq_error.1 h with h | ⟨_, -, h⟩
    · obtain ⟨e', hassemble, rfl⟩ := Except.mapError_eq_error.1 h
      exact .assembly htraits hdiscover ((Assembly.meets_assemble _).error e' hassemble)
    · exact nomatch h
  · -- The checks, and the graph.
    rcases Except.bind_eq_error.1 h with h | ⟨_, -, h⟩
    · rcases parts.assembled.check_cases with ⟨hok, -⟩ | ⟨fault, hfault, herror⟩
      · rw [hok] at h
        exact nomatch h
      · rw [herror] at h
        exact Except.error.inj h ▸ .check ⟨parts, hparts, rfl⟩ hfault
    · exact graphOf_error h ▸ .unexpectedCycle

end ModuleGraph.Source
