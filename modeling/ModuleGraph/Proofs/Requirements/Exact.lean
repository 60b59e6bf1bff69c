import ModuleGraph.Proofs.Catalog
import ModuleGraph.Proofs.Requirements

/-!
# What is required, reference by reference

Which dependency a reference matches is a matter of names, and what is required of a dependency is
a matter of the references that match it, enabled ones and disabled ones.  The references are
counted one after the other, and an enabled one takes back what a disabled one has left; still the
counts are the same for any list with the same references, however often and in whatever order it
has them (`Counts.requirementAt?_congr`).

## Key results

- `dependencyIndex?_eq_some`: the position that is looked up is the one that is matched
- `Counts.mem_disabledOnly`, `Counts.mem_productsOf`: what has been counted for a position
- `requiredDependencies_exact`: which dependencies are required, and what of them
-/

namespace ModuleGraph

/-- A dependency goes by a package name, up to the case of ASCII letters. -/
def Dependency.GoesBy (identify : Origin → Identity) (dep : Dependency) (package : String) : Prop :=
  Text.asciiFold dep.referenceName = Text.asciiFold package ∨
    Text.asciiFold (identify dep.origin).name = Text.asciiFold package

/-- Going by a package name is being meant by it. -/
theorem Dependency.isMeantBy_iff {identify : Origin → Identity} {dep : Dependency}
    {package : String} :
    dep.isMeantBy (identify dep.origin) package = true ↔ dep.GoesBy identify package := by
  rw [isMeantBy, Bool.or_eq_true, Text.equalFold_iff, Text.equalFold_iff, GoesBy]

namespace Manifest

/-! ### Matching references -/

/-- A module dependency refers to a product, of a package that it names or of one that it does not
name.  A name by itself is a product unless the manifest has a module of that name. -/
inductive RefersToProduct (m : Manifest) (d : ModuleDependency) : Option String → Prop
  | product {name : String} {package : Option String} {aliases : SortedMap String String}
      (htarget : d.target = .product name package aliases) : RefersToProduct m d package
  | byName {name : String} (htarget : d.target = .byName name)
      (hnone : ∀ decl ∈ m.modules, decl.name ≠ name) : RefersToProduct m d none

/-- A reference matches the dependency at a position, which is the first one declared that goes by
the package of the reference, or by the name of the product if no package is named. -/
def Matches (m : Manifest) (identify : Origin → Identity) (d : ModuleDependency) (i : Nat) : Prop :=
  ∃ package dep, m.RefersToProduct d package ∧ m.dependencies[i]? = some dep ∧
    dep.GoesBy identify (package.getD d.name) ∧
    ∀ j < i, ∀ dep', m.dependencies[j]? = some dep' →
      ¬ dep'.GoesBy identify (package.getD d.name)

/-- Some references match a position, all of which are disabled. -/
def OnlyDisabled (m : Manifest) (identify : Origin → Identity) (traits : Names)
    (refs : List ModuleDependency) (i : Nat) : Prop :=
  (∃ d ∈ refs, d.enabledBy traits = false ∧ m.Matches identify d i) ∧
    ¬ ∃ d ∈ refs, d.enabledBy traits = true ∧ m.Matches identify d i

/-- A product may come from the dependency at a position: an enabled reference that has its name
matches the position, or it names no package and matches no position at all. -/
def MayComeFrom (m : Manifest) (identify : Origin → Identity) (traits : Names)
    (refs : List ModuleDependency) (i : Nat) (name : String) : Prop :=
  ∃ d ∈ refs, d.enabledBy traits = true ∧ d.name = name ∧
    (m.Matches identify d i ∨ m.RefersToProduct d none ∧ ∀ j, ¬ m.Matches identify d j)

section
variable {m : Manifest} {identify : Origin → Identity} {traits : Names} {d : ModuleDependency}

/-- What may come from a dependency is a product that some of the references refer to. -/
theorem MayComeFrom.exists_refers {refs : List ModuleDependency} {i : Nat} {name : String}
    (h : m.MayComeFrom identify traits refs i name) :
    ∃ d ∈ refs, (∃ package, m.RefersToProduct d package) ∧ d.name = name := by
  obtain ⟨d, hd, -, hname, ⟨package, -, hrefers, -⟩ | ⟨hrefers, -⟩⟩ := h
  · exact ⟨d, hd, ⟨package, hrefers⟩, hname⟩
  · exact ⟨d, hd, ⟨none, hrefers⟩, hname⟩

/-- There is no module of a name exactly if none is found. -/
theorem module?_isNone_iff {name : String} :
    (m.module? name).isNone = true ↔ ∀ decl ∈ m.modules, decl.name ≠ name := by
  simp [module?]

/-- The references that name no package. -/
theorem isUnqualified_iff : m.isUnqualified d = true ↔ m.RefersToProduct d none := by
  unfold isUnqualified
  constructor
  · intro h
    split at h
    · next name package aliases htarget =>
      cases package with
      | none => exact .product htarget
      | some package => exact nomatch h
    · next name htarget => exact .byName htarget (module?_isNone_iff.1 h)
    · exact nomatch h
  · rintro (htarget | ⟨htarget, hnone⟩)
    · simp [htarget]
    · simp only [htarget]
      exact module?_isNone_iff.2 hnone

/-- The name by which a reference looks for its package. -/
theorem referredPackage?_eq_some {name : String} :
    m.referredPackage? d = some name ↔
      ∃ package, m.RefersToProduct d package ∧ package.getD d.name = name := by
  unfold referredPackage?
  constructor
  · intro h
    split at h
    · next htarget =>
      -- A product reference, with a package or without.
      refine ⟨_, .product htarget, ?_⟩
      simpa [ModuleDependency.name, htarget] using h
    · next htarget =>
      split at h
      · next hnone =>
        -- A name that no module of the package has.
        refine ⟨none, .byName htarget (module?_isNone_iff.1 hnone), ?_⟩
        simpa [ModuleDependency.name, htarget] using h
      · exact nomatch h
    · exact nomatch h
  · rintro ⟨package, htarget | ⟨htarget, hnone⟩, hname⟩
    · simpa [ModuleDependency.name, htarget] using hname
    · simp only [htarget, if_pos (module?_isNone_iff.2 hnone)]
      simpa [ModuleDependency.name, htarget] using hname

/-- What looks for a package refers to a product. -/
theorem referredPackage?_isSome :
    (m.referredPackage? d).isSome = true ↔ ∃ package, m.RefersToProduct d package := by
  rw [Option.isSome_iff_exists]
  simp only [referredPackage?_eq_some]
  constructor
  · rintro ⟨_, package, hrefers, -⟩
    exact ⟨package, hrefers⟩
  · rintro ⟨package, hrefers⟩
    exact ⟨_, package, hrefers, rfl⟩

/-- The position that is looked up for a reference is the one that it matches. -/
theorem dependencyIndex?_eq_some {i : Nat} :
    m.dependencyIndex? identify d = some i ↔ m.Matches identify d i := by
  simp only [dependencyIndex?, Option.bind_eq_bind, Option.bind_eq_some_iff,
    List.findIdx?_eq_some_iff_getElem, Dependency.isMeantBy_iff, referredPackage?_eq_some]
  constructor
  · rintro ⟨_, ⟨package, hrefers, rfl⟩, hi, hgoes, hfirst⟩
    refine ⟨package, _, hrefers, List.getElem?_eq_getElem hi, hgoes, fun j hj dep' hdep' => ?_⟩
    obtain ⟨_, rfl⟩ := List.getElem?_eq_some_iff.1 hdep'
    exact hfirst j hj
  · rintro ⟨package, dep, hrefers, hdep, hgoes, hfirst⟩
    obtain ⟨hi, rfl⟩ := List.getElem?_eq_some_iff.1 hdep
    refine ⟨_, ⟨package, hrefers, rfl⟩, hi, hgoes, fun j hj => ?_⟩
    exact hfirst j hj _ (List.getElem?_eq_getElem (hj.trans hi))

/-- A reference for which no position is found matches none. -/
theorem dependencyIndex?_eq_none :
    m.dependencyIndex? identify d = none ↔ ∀ i, ¬ m.Matches identify d i := by
  simp only [Option.eq_none_iff_forall_ne_some, ne_eq, dependencyIndex?_eq_some]

/-! ### What has been counted -/

variable {refs refs' : List ModuleDependency} {u u' : Usage}

/-- The positions that only disabled references match. -/
theorem Counts.mem_disabledOnly (h : Counts m identify traits refs u) {i : Nat} :
    i ∈ u.disabledOnly.toList ↔ m.OnlyDisabled identify traits refs i := by
  rw [h.disabledOnly, ← Bool.not_eq_true, h.used]
  simp only [dependencyIndex?_eq_some, OnlyDisabled]

/-- The names that may come from a position. -/
theorem Counts.mem_productsOf (h : Counts m identify traits refs u) {i : Nat} {name : String} :
    name ∈ (u.productsOf i).toList ↔ m.MayComeFrom identify traits refs i name := by
  rw [Usage.productsOf, SortedSet.mem_union, h.names, h.unmatched]
  simp only [dependencyIndex?_eq_some, dependencyIndex?_eq_none, isUnqualified_iff]
  constructor
  · rintro (⟨d, hd, hen, hmatch, hname⟩ | ⟨d, hd, hen, hnone, hun, hname⟩)
    · exact ⟨d, hd, hen, hname, .inl hmatch⟩
    · exact ⟨d, hd, hen, hname, .inr ⟨hun, hnone⟩⟩
  · rintro ⟨d, hd, hen, hname, hmatch | ⟨hun, hnone⟩⟩
    · exact .inl ⟨d, hd, hen, hmatch, hname⟩
    · exact .inr ⟨d, hd, hen, hnone, hun, hname⟩

/-- Lists with the same references count alike. -/
theorem Counts.requirementAt?_congr (h : Counts m identify traits refs u)
    (h' : Counts m identify traits refs' u') (hsame : ∀ d, d ∈ refs ↔ d ∈ refs')
    (filter : ProductFilter) (i : Nat) :
    requirementAt? filter u i = requirementAt? filter u' i := by
  have hdisabled : u.disabledOnly = u'.disabledOnly := KeyedSet.eq_of_mem_iff fun i => by
    simp only [h.mem_disabledOnly, h'.mem_disabledOnly, OnlyDisabled, hsame]
  have hproducts : u.productsOf i = u'.productsOf i := KeyedSet.eq_of_mem_iff fun name => by
    simp only [h.mem_productsOf, h'.mem_productsOf, MayComeFrom, hsame]
  simp only [requirementAt?, hdisabled, hproducts]

end

/-! ### The required dependencies -/

/-- What is required of the dependency at a position for a filter, if it is required. -/
def requirement? (m : Manifest) (identify : Origin → Identity) (traits : Names)
    (filter : ProductFilter) (i : Nat) : Option ProductFilter :=
  requirementAt? filter (m.usageOf identify traits (m.requiredModules filter traits)) i

/-- The references of the required modules have been counted. -/
theorem counts_required (m : Manifest) (identify : Origin → Identity) (traits : Names)
    (filter : ProductFilter) :
    Counts m identify traits (m.requiredReferences filter traits)
      (m.usageOf identify traits (m.requiredModules filter traits)) :=
  m.counts_usageOf identify traits _

section
variable {m : Manifest} {identify : Origin → Identity} {traits products : Names} {i : Nat}
  {f : ProductFilter}

/-- With everything needed, the dependencies are left out that only disabled references match. -/
theorem requirement?_everything_eq_none :
    m.requirement? identify traits .everything i = none ↔
      m.OnlyDisabled identify traits m.references i := by
  have hcounts := m.counts_required identify traits .everything
  refine Iff.trans ?_ hcounts.mem_disabledOnly
  rw [← SortedSet.contains_iff_mem]
  simp [requirement?, requirementAt?]

/-- With everything needed, everything is required of any other dependency. -/
theorem eq_everything_of_requirement? (h : m.requirement? identify traits .everything i = some f) :
    f = .everything := by
  simp only [requirement?, requirementAt?] at h
  split at h
  · cases h
  · exact (Option.some.inj h).symm

/-- With some products needed, the dependencies are left out from which no name may come. -/
theorem requirement?_only_eq_none :
    m.requirement? identify traits (.only products) i = none ↔
      ∀ name, ¬ m.MayComeFrom identify traits
        (m.requiredReferences (.only products) traits) i name := by
  simp only [← (m.counts_required identify traits (.only products)).mem_productsOf]
  rw [← List.eq_nil_iff_forall_not_mem]
  simp [requirement?, requirementAt?, KeyedSet.isEmpty]

/-- With some products needed, the names that may come from any other dependency are required. -/
theorem eq_only_of_requirement?
    (h : m.requirement? identify traits (.only products) i = some f) :
    ∃ names, f = .only names ∧ ∀ name, name ∈ names.toList ↔
      m.MayComeFrom identify traits (m.requiredReferences (.only products) traits) i name := by
  refine ⟨_, ?_, fun name => (m.counts_required identify traits (.only products)).mem_productsOf⟩
  simp only [requirement?, requirementAt?] at h
  split at h
  · cases h
  · exact (Option.some.inj h).symm

end

/-- The dependencies of a manifest are required position by position.  Whatever order the references
are met in, it is the same.  With everything needed, a dependency is left out exactly if only
disabled references match it, and everything is required of any other.  With some products needed,
the names that may come from a dependency are required of it, and it is left out exactly if there
are none. -/
theorem requiredDependencies_exact (m : Manifest) (identify : Origin → Identity) (traits : Names) :
    (∀ filter, m.requiredDependencies identify filter traits =
      m.dependencies.zipIdx.filterMap fun (dep, i) =>
        (m.requirement? identify traits filter i).map (dep, ·)) ∧
    (∀ filter (refs : List ModuleDependency),
      (∀ d, d ∈ refs ↔ d ∈ m.requiredReferences filter traits) → ∀ i,
        requirementAt? filter (refs.foldl (Usage.count m identify traits) Usage.none) i =
          m.requirement? identify traits filter i) ∧
    (∀ i, (m.requirement? identify traits .everything i = none ↔
        m.OnlyDisabled identify traits m.references i) ∧
      ∀ f, m.requirement? identify traits .everything i = some f → f = .everything) ∧
    ∀ products i, (m.requirement? identify traits (.only products) i = none ↔
        ∀ name, ¬ m.MayComeFrom identify traits
          (m.requiredReferences (.only products) traits) i name) ∧
      ∀ f, m.requirement? identify traits (.only products) i = some f →
        ∃ names, f = .only names ∧ ∀ name, name ∈ names.toList ↔
          m.MayComeFrom identify traits (m.requiredReferences (.only products) traits) i name := by
  refine ⟨fun filter => rfl, ?_, fun i => ?_, fun products i => ?_⟩
  · intro filter refs hsame i
    have hcounts := m.counts_foldl identify traits refs
    exact hcounts.requirementAt?_congr (m.counts_required identify traits filter) hsame filter i
  · exact ⟨requirement?_everything_eq_none, fun f => eq_everything_of_requirement?⟩
  · exact ⟨requirement?_only_eq_none, fun f => eq_only_of_requirement?⟩

/-- A package with two products.  The module of the second one refers to a product without a
package, which no dependency goes by, and to one of the package `tools` for a trait. -/
def overlookingTools : Manifest :=
  { bare (.root ⟨"/app"⟩) "App" with
    modules := [⟨"Lib", .library, none, [⟨.product "Net" (some "kit") KeyedSet.empty, none⟩]⟩,
      ⟨"App", .library, none,
        [⟨.product "Foo" none KeyedSet.empty, none⟩,
          ⟨.product "Lint" (some "tools") KeyedSet.empty,
            some ⟨none, none, some (KeyedSet.ofList ["Tls"])⟩⟩]⟩]
    products := [⟨"Lib", .library, ["Lib"]⟩, ⟨"App", .library, ["App"]⟩]
    dependencies := [.onRegistry "kit" none, .onRegistry "tools" none]
    traits := [⟨"Tls", KeyedSet.empty, none⟩] }

/-- Both dependencies are required for both products, whichever references are met first. -/
theorem requiredDependencies_exact_overlookingTools :
    overlookingTools.requiredDependencies (Mirrors.identify KeyedSet.empty)
        (.ofList ["App", "Lib"]) KeyedSet.empty =
      [(.onRegistry "kit" none, .ofList ["Foo", "Net"]),
        (.onRegistry "tools" none, .ofList ["Foo"])] ∧
    (∀ i, requirementAt? (.ofList ["App", "Lib"])
        ((overlookingTools.requiredReferences (.ofList ["App", "Lib"]) KeyedSet.empty).reverse.foldl
          (Usage.count overlookingTools (Mirrors.identify KeyedSet.empty) KeyedSet.empty)
          Usage.none) i =
      overlookingTools.requirement? (Mirrors.identify KeyedSet.empty) KeyedSet.empty
        (.ofList ["App", "Lib"]) i) ∧
    overlookingTools.OnlyDisabled (Mirrors.identify KeyedSet.empty) KeyedSet.empty
      overlookingTools.references 1 ∧
    ∃ names, ProductFilter.ofList ["Foo"] = .only names ∧ ∀ name, name ∈ names.toList ↔
      overlookingTools.MayComeFrom (Mirrors.identify KeyedSet.empty) KeyedSet.empty
        (overlookingTools.requiredReferences (.ofList ["App", "Lib"]) KeyedSet.empty) 1 name := by
  obtain ⟨-, horder, hall, hsome⟩ :=
    requiredDependencies_exact overlookingTools (Mirrors.identify KeyedSet.empty) KeyedSet.empty
  exact ⟨by decide +kernel, horder _ _ fun d => List.mem_reverse,
    (hall 1).1.1 (by decide +kernel), (hsome _ 1).2 _ (by decide +kernel)⟩

end Manifest

end ModuleGraph
