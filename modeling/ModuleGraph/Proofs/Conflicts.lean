import ModuleGraph.Proofs.Discovery.Conflicts
import ModuleGraph.Proofs.LoadErrors
import ModuleGraph.Proofs.LocationName

/-!
# Conflicts between a location and its mirror

A package is identified by the mirror of its location, but two declarations are at the same place
only if their locations agree as they are written.  So a location and its mirror, declared beside
each other, contradict each other unless they agree without the mirror: either may be the reason why
a graph cannot be made, and no graph needs both.

## Key results

- `Assembly.Fails.not_isConflict`: assembly fails for other reasons
- `Source.discover_of_conflict`: a conflict is met by discovery
- `Mirrors.Swaps.identify_eq`, `Catalog.exists_clash_iff`: when a location and its mirror contradict
  each other
- `Source.load_clashes`: the conflicts of a load
- `load_clashes_mirroredKit`: a location and its mirror in one load
-/

namespace ModuleGraph

/-- Two declarations contradict each other about the place of an identity or of a name. -/
def PackageError.IsConflict : PackageError → Prop
  | .identityConflict _ _ _ _ _ => True
  | .nameConflict _ _ _ _ => True
  | _ => False

/-! ### Where conflicts come from -/

/-- Assembly fails for other reasons. -/
theorem Assembly.Fails.not_isConflict {a : Assembly} {e : PackageError} (h : a.Fails e) :
    ¬ e.IsConflict := by
  cases h with
  | unresolved _ h => cases h <;> exact not_false
  | unknownModule => exact not_false
  | multipleAliases => exact not_false

/-- So do the checks of what has been assembled. -/
theorem Assembly.Assembled.FirstFault.not_isConflict {a : Assembled} {e : PackageError}
    (h : a.FirstFault e) : ¬ e.IsConflict := by
  cases h with
  | emptyRoot => exact not_false
  | moduleCycle => exact not_false
  | duplicateProduct => exact not_false
  | pluginDependency _ _ _ plugin _ e _ x _ => cases x <;> exact not_false

/-- A conflict is met by discovery. -/
theorem Source.discover_of_conflict {s : Source} {e : PackageError}
    (h : s.load.result = .error (.package e)) (he : e.IsConflict) :
    ∃ traits, s.catalog.discover s.mirrors traits s.rootDependencies s.options.filter =
      .error e := by
  -- All stages but discovery fail for other reasons.
  cases Source.fails_of_load h with
  | traits => exact nomatch he
  | discovery hdiscover => exact ⟨_, hdiscover⟩
  | packageCycle => exact nomatch he
  | assembly _ _ hfails => exact absurd he hfails.not_isConflict
  | check _ hfault => exact absurd he hfault.not_isConflict

/-! ### Mirrors -/

/-- Two dependencies differ only in that the second one gives the mirror which is configured for the
location of the first one. -/
structure Mirrors.Swaps (mirrors : Mirrors) (dep dep' : Dependency) : Prop where
  mirror : SortedMap.get? mirrors dep.origin.canonical = some dep'.origin.location
  name : dep.name = dep'.name
  traits : dep.traits = dep'.traits

/-- A location and its mirror have one identity, unless registries are involved or the mirror has a
mirror of its own. -/
theorem Mirrors.Swaps.identify_eq {mirrors : Mirrors} {dep dep' : Dependency}
    (h : mirrors.Swaps dep dep') (hdep : ∀ id, dep.origin ≠ .registry id)
    (hdep' : ∀ id, dep'.origin ≠ .registry id)
    (hlast : mirrors.resolve dep'.origin.location = dep'.origin.location) :
    mirrors.identify dep.origin = mirrors.identify dep'.origin := by
  have hmirror : mirrors.resolve dep.origin.location = dep'.origin.location := by
    unfold Mirrors.resolve SortedMap.getD
    rw [show SortedMap.get? mirrors (Location.canonical dep.origin.location) = _ from h.mirror]
    rfl
  rw [Mirrors.identify_of_ne_registry hdep, Mirrors.identify_of_ne_registry hdep', hmirror, hlast]

/-- Two dependencies of one name, or without names, cannot stand beside each other: they are at
different places as they are written, and they have a name or the identity of a package that is no
root. -/
def Catalog.KeepsApart (c : Catalog) (mirrors : Mirrors) (dep dep' : Dependency) : Prop :=
  dep.origin.canonical ≠ dep'.origin.canonical ∧
    (dep.name.isSome = true ∨ (mirrors.identify dep.origin = mirrors.identify dep'.origin ∧
      c.isRoot (mirrors.identify dep.origin) = false))

section
variable {c : Catalog} {mirrors : Mirrors} {dep dep' : Dependency}

/-- It does not matter which of the two comes first. -/
theorem Catalog.KeepsApart.symm (h : c.KeepsApart mirrors dep dep') (hname : dep.name = dep'.name) :
    c.KeepsApart mirrors dep' dep := by
  obtain ⟨hplace, hcase⟩ := h
  refine ⟨hplace.symm, ?_⟩
  rcases hcase with hsome | ⟨hidentity, hroot⟩
  · exact .inl (hname ▸ hsome)
  · exact .inr ⟨hidentity.symm, hidentity ▸ hroot⟩

/-- Two dependencies of one name, or without names, are refused beside each other exactly if they
cannot stand so. -/
theorem Catalog.exists_clash_iff (hname : dep.name = dep'.name) (parent : Option Identity) :
    (∃ e, c.Clash mirrors dep parent dep' e) ↔ c.KeepsApart mirrors dep dep' := by
  constructor
  · intro ⟨e, hclash⟩
    cases hclash with
    | identity hidentity hroot hplace _ => exact ⟨hplace, .inr ⟨hidentity, hidentity ▸ hroot⟩⟩
    | name hsome _ _ hplace => exact ⟨hplace, .inl (by rw [hsome]; rfl)⟩
  · intro ⟨hplace, hcase⟩
    rcases hcase with hsome | ⟨hidentity, hroot⟩
    · obtain ⟨name, hsome⟩ := Option.isSome_iff_exists.1 hsome
      exact ⟨_, .name hsome (hname ▸ hsome) rfl hplace⟩
    · exact ⟨_, .identity hidentity (hidentity ▸ hroot) hplace none⟩

end

/-- If a load fails for a conflict, two dependencies are declared that contradict each other by the
locations as they are written, and the error names them; if it succeeds, no two dependencies that
the graph needs do.  A dependency on a location and one on its mirror have one identity, and
contradict each other whenever their canonical locations differ and they have a name or no root has
their identity: mirrors decide which package is meant, and have no part in where it is. -/
theorem Source.load_clashes (s : Source) :
    (∀ e, s.load.result = .error (.package e) → e.IsConflict →
      ∃ parent dep parent' dep', s.catalog.HasDependency s.rootDependencies parent dep ∧
        s.catalog.HasDependency s.rootDependencies parent' dep' ∧
        s.catalog.Clash s.mirrors dep parent' dep' e) ∧
    (∀ g, s.load.result = .ok g → ∀ dep dep', s.Needs g dep → s.Needs g dep' →
      ∀ parent e, ¬ s.catalog.Clash s.mirrors dep parent dep' e) ∧
    ∀ dep dep', s.mirrors.Swaps dep dep' →
      ((∀ id, dep.origin ≠ .registry id) → (∀ id, dep'.origin ≠ .registry id) →
        s.mirrors.resolve dep'.origin.location = dep'.origin.location →
          s.mirrors.identify dep.origin = s.mirrors.identify dep'.origin) ∧
      ∀ parent,
        ((∃ e, s.catalog.Clash s.mirrors dep parent dep' e) ↔
          s.catalog.KeepsApart s.mirrors dep dep') ∧
        ((∃ e, s.catalog.Clash s.mirrors dep' parent dep e) ↔
          s.catalog.KeepsApart s.mirrors dep dep') := by
  refine ⟨fun e h he => ?_, fun g h dep dep' hneeds hneeds' parent e hclash => ?_,
    fun dep dep' hswaps => ⟨hswaps.identify_eq, fun parent => ⟨?_, ?_⟩⟩⟩
  · obtain ⟨traits, hdiscover⟩ := Source.discover_of_conflict h he
    exact Catalog.discover_error hdiscover
  · obtain ⟨parts, hbuilt⟩ := Source.exists_builtFrom h
    obtain ⟨hidentity, hname⟩ := (hbuilt.located hneeds).agree (hbuilt.located hneeds')
    -- In a loaded graph declarations agree, so neither kind of clash is possible.
    cases hclash with
    | identity hsame hroot hplace _ => exact hplace (hidentity hsame (hsame ▸ hroot))
    | name hfirst hsecond hlower hplace => exact hplace (hname _ _ hfirst hsecond hlower)
  · exact Catalog.exists_clash_iff hswaps.name parent
  · rw [Catalog.exists_clash_iff hswaps.name.symm parent]
    exact ⟨fun h => h.symm hswaps.name.symm, fun h => h.symm hswaps.name⟩

/-- The location of a package. -/
def kitUrl : Url := ⟨"https", "", "", some "kit.org", none, .segments ["kit"], none, none⟩

/-- The location of a mirror of it. -/
def kitMirror : Url := ⟨"https", "", "", some "mirror.org", none, .segments ["fork"], none, none⟩

/-- Two packages that depend on a third one.  One of them gives its mirror, the other one the
location that is given here. -/
def mirroredKit (location : Url) : Source :=
  { Source.ofManifests
      [usingPackages (.root ⟨"/app"⟩) "App" [("left", "Left"), ("right", "Right")],
        { usingPackages (.registry "left") "Left" [("fork", "Kit")] with
          dependencies := [⟨.repository kitMirror, none, none⟩] },
        { usingPackages (.registry "right") "Right" [("fork", "Kit")] with
          dependencies := [⟨.repository location, none, none⟩] },
        usingPackages (.repository kitMirror) "Kit" []] with
    mirrors := Mirrors.ofPairs [(kitUrl.write, kitMirror.write)] }

/-- If both give the mirror, the graph is made.  If one gives the location for which the mirror
stands in, the load fails for these two dependencies, which have one identity. -/
theorem load_clashes_mirroredKit :
    (∃ g, (mirroredKit kitMirror).load.result = .ok g) ∧
    (mirroredKit kitUrl).mirrors.Swaps ⟨.repository kitUrl, none, none⟩
      ⟨.repository kitMirror, none, none⟩ ∧
    (mirroredKit kitUrl).mirrors.identify (.repository kitUrl) =
      (mirroredKit kitUrl).mirrors.identify (.repository kitMirror) ∧
    ∃ e, (mirroredKit kitUrl).load.result = .error (.package e) ∧ e.IsConflict ∧
      (∃ parent dep parent' dep',
        (mirroredKit kitUrl).catalog.HasDependency [] parent dep ∧
        (mirroredKit kitUrl).catalog.HasDependency [] parent' dep' ∧
        (mirroredKit kitUrl).catalog.Clash (mirroredKit kitUrl).mirrors dep parent' dep' e) ∧
      ∃ e', (mirroredKit kitUrl).catalog.Clash (mirroredKit kitUrl).mirrors
        ⟨.repository kitMirror, none, none⟩ (some ⟨"right"⟩)
        ⟨.repository kitUrl, none, none⟩ e' := by
  -- The two runs.
  have hloads : ((mirroredKit kitMirror).load.result.toOption.any fun _ => true) = true := by
    decide +kernel
  have hfails : (mirroredKit kitUrl).load.result.map (fun _ => ()) =
      .error (.package (.identityConflict "right" kitUrl.write kitMirror.write ⟨"fork"⟩
        (some (["app", "left", "fork"], ["app", "right", "fork"])))) := by
    decide +kernel
  obtain ⟨g, h, -⟩ := Except.exists_ok_of_any hloads
  have herror := Except.map_eq_error.1 hfails
  -- One location stands in for the other, and the dependencies give both.
  have hswaps : (mirroredKit kitUrl).mirrors.Swaps ⟨.repository kitUrl, none, none⟩
      ⟨.repository kitMirror, none, none⟩ := ⟨by decide +kernel, rfl, rfl⟩
  obtain ⟨hclashes, -, hmirrors⟩ := Source.load_clashes (mirroredKit kitUrl)
  obtain ⟨hidentity, hapart⟩ := hmirrors _ _ hswaps
  have hsame := hidentity (fun _ heq => nomatch heq) (fun _ heq => nomatch heq) (by decide +kernel)
  have hplace : (Origin.repository kitUrl).canonical ≠ (Origin.repository kitMirror).canonical := by
    decide +kernel
  have hroot : (mirroredKit kitUrl).catalog.isRoot
      ((mirroredKit kitUrl).mirrors.identify (.repository kitUrl)) = false := by
    decide +kernel
  refine ⟨⟨g, h⟩, hswaps, hsame, _, herror, trivial, hclashes _ herror trivial, ?_⟩
  exact (hapart (some ⟨"right"⟩)).2.2 ⟨hplace, .inr ⟨hsame, hroot⟩⟩

end ModuleGraph
