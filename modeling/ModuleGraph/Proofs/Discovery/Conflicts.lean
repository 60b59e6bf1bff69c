import ModuleGraph.Proofs.Discovery.Locations

/-!
# What a conflict comes from

Discovery compares every declaration with the first one of its identity and with the first use of
its name.  Both have been entered for dependencies that are declared, so if discovery fails, there
are two declared dependencies that contradict each other: they have one identity, which is not that
of a root, or one name, and they are not at the same place.  The place is the location as it is
written, for both of them.

## Key results

- `Catalog.Clash`: the errors for two dependencies that contradict each other
- `Discovery.meets_declare`: what a declaration leads to, in success and failure
- `Catalog.discover_error`: discovery fails for two dependencies that are declared
-/

namespace ModuleGraph

namespace Catalog

/-- A dependency is declared beside the roots, or in the manifest of a package. -/
def HasDependency (c : Catalog) (extra : List Dependency) (parent : Option Identity)
    (dep : Dependency) : Prop :=
  match parent with
  | none => dep ∈ extra
  | some p => ∃ m, c.manifest? p = some m ∧ dep ∈ m.dependencies

/-- The errors with which a dependency that `parent` declares is refused because of another one that
has been declared before. -/
inductive Clash (c : Catalog) (mirrors : Mirrors) (dep : Dependency) (parent : Option Identity)
    (dep' : Dependency) : PackageError → Prop
  /-- They have one identity, which is not that of a root, and are at different places. -/
  | identity (hidentity : mirrors.identify dep.origin = mirrors.identify dep'.origin)
      (hroot : c.isRoot (mirrors.identify dep'.origin) = false)
      (hplace : dep.origin.canonical ≠ dep'.origin.canonical)
      (chains : Option (List String × List String)) :
      Clash c mirrors dep parent dep' (.identityConflict (Discovery.parentLabel parent)
        dep'.origin.location dep.origin.location (mirrors.identify dep'.origin) chains)
  /-- They have one name but for letter case, and are at different places. -/
  | name {name name' : String} (hname : dep.name = some name) (hname' : dep'.name = some name')
      (hlower : Text.lowercase name = Text.lowercase name')
      (hplace : dep.origin.canonical ≠ dep'.origin.canonical) :
      Clash c mirrors dep parent dep' (.nameConflict (Discovery.parentLabel parent)
        dep'.origin.location dep.origin.location name')

end Catalog

namespace Discovery

variable {c : Catalog} {mirrors : Mirrors} {traits : EnabledTraits} {extra : List Dependency}
  {d : Discovery}

/-- What has been entered for identities that are not those of roots, and for names, has been
entered for dependencies that are declared. -/
structure Sourced (c : Catalog) (mirrors : Mirrors) (extra : List Dependency) (d : Discovery) :
    Prop where
  declarations : ∀ id first, SortedMap.get? d.declarations id = some first →
    c.isRoot id = false → ∃ parent dep, c.HasDependency extra parent dep ∧
      mirrors.identify dep.origin = id ∧ first.canonical = dep.origin.canonical ∧
      first.location = dep.origin.location
  names : ∀ key place, SortedMap.get? d.names key = some place →
    ∃ parent dep name, c.HasDependency extra parent dep ∧ dep.name = some name ∧
      Text.lowercase name = key ∧ place = (dep.origin.canonical, dep.origin.location)

/-- A dependency is refused because of another one that is declared. -/
def Refused (c : Catalog) (mirrors : Mirrors) (extra : List Dependency) (e : PackageError) :
    Prop :=
  ∃ parent dep parent' dep', c.HasDependency extra parent dep ∧
    c.HasDependency extra parent' dep' ∧ c.Clash mirrors dep parent' dep' e

/-! ### One declaration -/

/-- The check of an identity fails because of the first declaration. -/
theorem meets_checkIdentity (hd : Sourced c mirrors extra d) {parent : Option Identity}
    {dep : Dependency} (hdep : c.HasDependency extra parent dep) :
    Except.Meets (fun _ => True) (Refused c mirrors extra)
      (d.checkIdentity c parent dep (mirrors.identify dep.origin)) := by
  unfold checkIdentity
  cases hget : SortedMap.get? d.declarations (mirrors.identify dep.origin) with
  -- No declaration to conflict with.
  | none => exact .of_ok trivial
  | some first =>
    dsimp only
    by_cases hconflict : (first.canonical != dep.origin.canonical &&
        !c.isRoot (mirrors.identify dep.origin)) = true
    · rw [if_pos hconflict]
      obtain ⟨hplace, hroot⟩ : first.canonical ≠ dep.origin.canonical ∧
          c.isRoot (mirrors.identify dep.origin) = false := by
        simpa using hconflict
      -- The declaration that is on record was made by a dependency.
      obtain ⟨parent₀, dep₀, hdep₀, hid, hcanonical, hlocation⟩ :=
        hd.declarations _ first hget hroot
      rw [hcanonical] at hplace
      rw [hlocation]
      exact .of_error ⟨parent₀, dep₀, parent, dep, hdep₀, hdep, .identity hid hroot hplace _⟩
    · rw [if_neg hconflict]
      exact .of_ok trivial

/-- Entering a name fails because of its first use, or it is used by a declared dependency now. -/
theorem meets_enterName (hd : Sourced c mirrors extra d) {parent : Option Identity}
    {dep : Dependency} (hdep : c.HasDependency extra parent dep) :
    Except.Meets (Sourced c mirrors extra) (Refused c mirrors extra) (d.enterName parent dep) := by
  unfold enterName
  cases hname : dep.name with
  -- A dependency without a name uses none.
  | none => exact .of_ok hd
  | some name =>
    dsimp only
    cases hget : SortedMap.get? d.names (Text.lowercase name) with
    | none =>
      -- The first use of the name: it is this dependency that the table stands for.
      refine .of_ok ⟨hd.declarations, fun key place hplace => ?_⟩
      by_cases heq : key = Text.lowercase name
      · subst heq
        rw [SortedMap.get?_put_self] at hplace
        exact ⟨parent, dep, name, hdep, hname, rfl, (Option.some.inj hplace).symm⟩
      · rw [SortedMap.get?_put_of_ne _ _ heq] at hplace
        exact hd.names key place hplace
    | some place =>
      -- A later use: the dependency of the first one is at hand by the invariant.
      obtain ⟨canonical, location⟩ := place
      obtain ⟨parent₀, dep₀, name₀, hdep₀, hname₀, hlower, hplace⟩ := hd.names _ _ hget
      obtain ⟨rfl, rfl⟩ := Prod.mk.inj hplace
      dsimp only
      by_cases hconflict : (dep₀.origin.canonical != dep.origin.canonical) = true
      · rw [if_pos hconflict]
        have hne : dep₀.origin.canonical ≠ dep.origin.canonical := by simpa using hconflict
        exact .of_error ⟨parent₀, dep₀, parent, dep, hdep₀, hdep, .name hname₀ hname hlower hne⟩
      · rw [if_neg hconflict]
        exact .of_ok hd

/-- A first declaration is entered for the dependency that is declared. -/
theorem Sourced.enterDeclaration (hd : Sourced c mirrors extra d) {parent : Option Identity}
    {dep : Dependency} (hdep : c.HasDependency extra parent dep) :
    Sourced c mirrors extra
      (d.enterDeclaration c parent dep (mirrors.identify dep.origin)) := by
  unfold Discovery.enterDeclaration
  split
  · -- Roots are not entered.
    exact hd
  · refine ⟨fun id first hget hroot => ?_, hd.names⟩
    dsimp only at hget
    split at hget
    · exact hd.declarations id first hget hroot
    · -- A first declaration is entered, for `dep`; all others stay.
      by_cases heq : id = mirrors.identify dep.origin
      · subst heq
        rw [SortedMap.get?_put_self] at hget
        have hfirst := Option.some.inj hget
        subst hfirst
        exact ⟨parent, dep, hdep, rfl, rfl, rfl⟩
      · rw [SortedMap.get?_put_of_ne _ _ heq] at hget
        exact hd.declarations id first hget hroot

/-- A declaration fails because of one before it, or what has been entered comes from declared
dependencies. -/
theorem meets_declare (hd : Sourced c mirrors extra d) {parent : Option Identity}
    {dep : Dependency} (filter : ProductFilter) (hdep : c.HasDependency extra parent dep) :
    Except.Meets (Sourced c mirrors extra) (Refused c mirrors extra)
      (declare c mirrors parent d (dep, filter)) := by
  unfold declare
  -- The identity is checked first, then the name.
  refine (meets_checkIdentity hd hdep).bind fun _ _ => ?_
  refine (meets_enterName hd hdep).bind fun d₁ hd₁ => ?_
  obtain ⟨hdeclarations, hnames, -⟩ := enterEdge_need_entries c
    (d₁.enterDeclaration c parent dep (mirrors.identify dep.origin)) parent
    (mirrors.identify dep.origin) filter
  have hentered := hd₁.enterDeclaration hdep
  -- The edge and the filter leave declarations and names as they are.
  refine .of_ok ⟨?_, ?_⟩
  · rw [hdeclarations]
    exact hentered.declarations
  · rw [hnames]
    exact hentered.names

/-! ### All steps -/

/-- Entering the roots concerns their own identities alone. -/
theorem sourced_enterRoots (c : Catalog) (mirrors : Mirrors) (extra : List Dependency)
    (filter : ProductFilter) :
    Sourced c mirrors extra (c.roots.foldl (enterRoot c filter) Discovery.empty) := by
  refine List.foldlRecOn c.roots (enterRoot c filter)
    (motive := Sourced c mirrors extra) ⟨?_, ?_⟩ fun d hd root hroot => ⟨?_, hd.names⟩
  · exact fun _ _ hget => nomatch hget
  · exact fun _ _ hget => nomatch hget
  · intro id first hget hid
    -- What is entered for a root is never compared.
    have hne : id ≠ root := by
      rintro rfl
      simp [Catalog.isRoot, hroot] at hid
    unfold enterRoot at hget
    dsimp only at hget
    split at hget
    · rw [SortedMap.get?_put_of_ne _ _ hne] at hget
      exact hd.declarations id first hget hid
    · exact hd.declarations id first hget hid

/-- Entering an extra dependency fails because of a declared one. -/
theorem meets_enterExtra (hd : Sourced c mirrors extra d) {dep : Dependency} (hdep : dep ∈ extra) :
    Except.Meets (Sourced c mirrors extra) (Refused c mirrors extra)
      (enterExtra c mirrors d dep) := by
  unfold enterExtra
  have hdeclares : c.HasDependency extra none dep := hdep
  refine (meets_declare hd .everything hdeclares).bind fun d₁ hd₁ => ?_
  exact .of_ok ⟨hd₁.declarations, hd₁.names⟩

/-- The declarations of a visit fail because of declared dependencies. -/
theorem meets_visit (hd : Sourced c mirrors extra d) {id : Identity} {m : Manifest}
    (hm : c.manifest? id = some m) (filter : ProductFilter) (traits : Names) :
    Except.Meets (Sourced c mirrors extra) (Refused c mirrors extra)
      ((m.requiredDependencies mirrors.identify filter traits).foldlM
        (declare c mirrors (some id)) d) := by
  refine Except.Meets.foldlM (fun entry hentry d' hd' => ?_) hd
  obtain ⟨dep, f⟩ := entry
  obtain ⟨i, hi, -⟩ :=
    (Manifest.mem_requiredDependencies m mirrors.identify filter traits dep f).1 hentry
  exact meets_declare hd' f ⟨m, hm, List.mem_of_getElem? hi⟩

/-- A visit that goes on keeps what has been entered. -/
theorem Sourced.visitNext {d' : Discovery} (hd : Sourced c mirrors extra d)
    (h : visitNext c mirrors traits d = .next d') : Sourced c mirrors extra d' := by
  obtain ⟨id, queue, -, hcase⟩ := visitNext_next h
  have htaken : Sourced c mirrors extra { d with queue } := ⟨hd.declarations, hd.names⟩
  rcases hcase with ⟨-, rfl⟩ | ⟨m, hm, hfold⟩
  · exact htaken
  · exact (meets_visit htaken hm _ _).ok d' hfold

/-- A visit that fails has come to a declaration that fails. -/
theorem visitNext_error {e : PackageError} (h : visitNext c mirrors traits d = .done (.error e)) :
    ∃ id queue m, d.queue = id :: queue ∧ c.manifest? id = some m ∧
      (m.requiredDependencies mirrors.identify (d.filterOf id) (traits.of id)).foldlM
        (declare c mirrors (some id)) { d with queue } = .error e := by
  unfold visitNext at h
  split at h
  · exact nomatch h
  · next id queue hqueue =>
    dsimp only at h
    split at h
    · exact nomatch h
    · next m hm =>
      split at h
      · next e' hfold =>
        cases h
        exact ⟨id, queue, m, hqueue, hm, hfold⟩
      · exact nomatch h

/-- Visits end because of declared dependencies, or with what has been entered for them. -/
theorem meets_visitNext {r : Except PackageError Discovery} (hd : Sourced c mirrors extra d)
    (h : visitNext c mirrors traits d = .done r) :
    Except.Meets (Sourced c mirrors extra) (Refused c mirrors extra) r := by
  cases r with
  | ok d' =>
    obtain ⟨-, rfl⟩ := visitNext_ok h
    exact .of_ok hd
  | error e =>
    obtain ⟨id, queue, m, -, hm, hfold⟩ := visitNext_error h
    have htaken : Sourced c mirrors extra { d with queue } := ⟨hd.declarations, hd.names⟩
    exact .of_error ((meets_visit htaken hm _ _).error e hfold)

end Discovery

/-- Discovery fails for two declared dependencies that contradict each other. -/
theorem Catalog.discover_error {c : Catalog} {mirrors : Mirrors} {traits : EnabledTraits}
    {extra : List Dependency} {filter : ProductFilter} {e : PackageError}
    (h : c.discover mirrors traits extra filter = .error e) :
    ∃ parent dep parent' dep', c.HasDependency extra parent dep ∧
      c.HasDependency extra parent' dep' ∧ c.Clash mirrors dep parent' dep' e := by
  -- The first loop: the inputs are declared, none of which has a parent.
  have hentered := Except.Meets.foldlM (f := Discovery.enterExtra c mirrors)
    (fun dep hdep d hd => Discovery.meets_enterExtra hd hdep)
    (Discovery.sourced_enterRoots c mirrors extra filter)
  have hmeets : Except.Meets (Discovery.Sourced c mirrors extra)
      (Discovery.Refused c mirrors extra) (c.discover mirrors traits extra filter) := by
    unfold Catalog.discover
    -- The second loop: packages are visited, and each visit keeps the invariant or fails for a
    -- clash.
    refine hentered.bind fun d hd => ?_
    cases hrun : Loop.run (Discovery.visitNext c mirrors traits)
        (Discovery.visitBound c filter) d with
    | none => exact .of_ok hd
    | some r =>
      exact Loop.run_post (Discovery.Sourced c mirrors extra)
        (Except.Meets (Discovery.Sourced c mirrors extra) (Discovery.Refused c mirrors extra))
        (fun _ _ hd hstep => hd.visitNext hstep)
        (fun _ _ hd hstep => Discovery.meets_visitNext hd hstep) hd hrun
  exact hmeets.error e h

end ModuleGraph
