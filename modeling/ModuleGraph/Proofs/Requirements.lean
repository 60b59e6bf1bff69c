import ModuleGraph.Proofs.Discovery.Filters
import ModuleGraph.Proofs.RequiredModules
import Mathlib.Data.List.Induction

/-!
# What a manifest requires

`Counts` reads off a usage how references use the declared dependencies, whatever the order in
which the references were counted.  What is required of a dependency is read off the usage.

## Key results

- `counts_foldl`, `counts_usageOf`: references are counted, and so are those of modules
- `mem_requiredDependencies`: which dependencies are required, and what of them
- `requirementAt?_eq_none`: when nothing is required of a dependency
- `exists_required_of_within`: what stays required when more is needed
-/

namespace ModuleGraph.Manifest

/-- A usage has counted some references. -/
structure Counts (m : Manifest) (identify : Origin → Identity) (traits : Names)
    (refs : List ModuleDependency) (u : Usage) : Prop where
  names : ∀ i n, n ∈ (SortedMap.getD u.used i KeyedSet.empty).toList ↔
    ∃ d ∈ refs, d.enabledBy traits = true ∧ m.dependencyIndex? identify d = some i ∧ d.name = n
  used : ∀ i, u.used.contains i = true ↔
    ∃ d ∈ refs, d.enabledBy traits = true ∧ m.dependencyIndex? identify d = some i
  disabledOnly : ∀ i, i ∈ u.disabledOnly.toList ↔
    (∃ d ∈ refs, d.enabledBy traits = false ∧ m.dependencyIndex? identify d = some i) ∧
      u.used.contains i = false
  unmatched : ∀ n, n ∈ u.unmatched.toList ↔
    ∃ d ∈ refs, d.enabledBy traits = true ∧ m.dependencyIndex? identify d = none ∧
      m.isUnqualified d = true ∧ d.name = n

/-- A condition on some reference of a longer list. -/
theorem exists_mem_snoc {refs : List ModuleDependency} {d : ModuleDependency}
    {p : ModuleDependency → Prop} : (∃ e ∈ refs ++ [d], p e) ↔ (∃ e ∈ refs, p e) ∨ p d := by
  simp [or_and_right, exists_or]

section
variable {m : Manifest} {identify : Origin → Identity} {traits : Names}
  {refs : List ModuleDependency} {u : Usage} {d : ModuleDependency}

/-- No references have been counted at first. -/
theorem counts_none : Counts m identify traits [] Usage.none := by
  refine ⟨?_, ?_, ?_, ?_⟩ <;> simp [Usage.none, SortedMap.getD, KeyedSet.empty, KeyedSet.contains,
    SortedMap.get?, KeyedSet.find?]

/-- A disabled reference to a position that is in use counts for nothing, and so does one to no
position. -/
theorem Counts.disabled (h : Counts m identify traits refs u) (hen : d.enabledBy traits = false)
    (hidx : ∀ i, m.dependencyIndex? identify d = some i → u.used.contains i = true) :
    Counts m identify traits (refs ++ [d]) u := by
  refine ⟨fun i n => ?_, fun i => ?_, fun i => ?_, fun n => ?_⟩ <;> rw [exists_mem_snoc]
  · simpa [hen] using h.names i n
  · simpa [hen] using h.used i
  · rw [h.disabledOnly i]
    refine ⟨fun ⟨hdis, hnot⟩ => ⟨.inl hdis, hnot⟩, fun ⟨hdis, hnot⟩ => ⟨?_, hnot⟩⟩
    refine hdis.resolve_right fun ⟨_, hi⟩ => ?_
    rw [hidx i hi] at hnot
    exact nomatch hnot
  · simpa [hen] using h.unmatched n

/-- A disabled reference to a position that is not in use. -/
theorem Counts.disabledFirst (h : Counts m identify traits refs u)
    (hen : d.enabledBy traits = false) {j : Nat} (hidx : m.dependencyIndex? identify d = some j)
    (hused : u.used.contains j = false) :
    Counts m identify traits (refs ++ [d])
      { u with disabledOnly := u.disabledOnly.insert j } := by
  refine ⟨fun i n => ?_, fun i => ?_, fun i => ?_, fun n => ?_⟩ <;> rw [exists_mem_snoc]
  · simpa [hen] using h.names i n
  · simpa [hen] using h.used i
  · rw [SortedSet.mem_insert, h.disabledOnly i, hen, hidx]
    constructor
    · rintro (rfl | ⟨hdis, hnot⟩)
      · exact ⟨.inr ⟨rfl, rfl⟩, hused⟩
      · exact ⟨.inl hdis, hnot⟩
    · rintro ⟨hdis | ⟨-, hi⟩, hnot⟩
      · exact .inr ⟨hdis, hnot⟩
      · exact .inl (Option.some.inj hi).symm
  · simpa [hen] using h.unmatched n

/-- An enabled reference to no position, which names its package. -/
theorem Counts.qualified (h : Counts m identify traits refs u)
    (hidx : m.dependencyIndex? identify d = none) (hun : m.isUnqualified d = false) :
    Counts m identify traits (refs ++ [d]) u := by
  refine ⟨fun i n => ?_, fun i => ?_, fun i => ?_, fun n => ?_⟩ <;> rw [exists_mem_snoc]
  · simpa [hidx] using h.names i n
  · simpa [hidx] using h.used i
  · simpa [hidx] using h.disabledOnly i
  · simpa [hun] using h.unmatched n

/-- An enabled reference to no position, which does not name its package. -/
theorem Counts.unqualified (h : Counts m identify traits refs u)
    (hen : d.enabledBy traits = true) (hidx : m.dependencyIndex? identify d = none)
    (hun : m.isUnqualified d = true) :
    Counts m identify traits (refs ++ [d]) { u with unmatched := u.unmatched.insert d.name } := by
  refine ⟨fun i n => ?_, fun i => ?_, fun i => ?_, fun n => ?_⟩ <;> rw [exists_mem_snoc]
  · simpa [hidx] using h.names i n
  · simpa [hidx] using h.used i
  · simpa [hidx] using h.disabledOnly i
  · rw [SortedSet.mem_insert, h.unmatched n, hen, hun, hidx, or_comm, @eq_comm _ n]
    simp

/-- An enabled reference to a position. -/
theorem Counts.meant (h : Counts m identify traits refs u) (hen : d.enabledBy traits = true)
    {j : Nat} (hidx : m.dependencyIndex? identify d = some j) :
    Counts m identify traits (refs ++ [d])
      { u with
        disabledOnly := u.disabledOnly.erase j
        used := SortedMap.update u.used j KeyedSet.empty (·.insert d.name) } := by
  have hcontains (i : Nat) : (SortedMap.update u.used j KeyedSet.empty
      (·.insert d.name)).contains i = true ↔ u.used.contains i = true ∨ j = i := by
    rw [SortedMap.update, SortedMap.put, KeyedSet.contains_insert, or_comm, @eq_comm _ i]
  -- The position is in use from here on, so no disabled reference counts for it.
  refine ⟨fun i n => ?_, fun i => ?_, fun i => ?_, fun n => ?_⟩ <;> rw [exists_mem_snoc]
  · by_cases heq : i = j
    · subst heq
      rw [SortedMap.getD_update_self, SortedSet.mem_insert, h.names, hidx, or_comm, hen,
        @eq_comm _ n]
      simp
    · rw [SortedMap.getD_update_of_ne _ _ _ heq, h.names i n, hidx]
      simp [Ne.symm heq]
  · rw [hcontains, h.used i, hidx]
    simp [hen]
  · have hnot : (SortedMap.update u.used j KeyedSet.empty (·.insert d.name)).contains i = false ↔
        u.used.contains i = false ∧ j ≠ i := by
      rw [← Bool.not_eq_true, hcontains, not_or, Bool.not_eq_true]
    rw [KeyedSet.mem_erase, h.disabledOnly i, hnot, hen]
    simp only [id_eq, Bool.true_eq_false, false_and, or_false, and_assoc, ne_comm]
  · simpa [hidx] using h.unmatched n

/-- Counting one more reference. -/
theorem Counts.count (h : Counts m identify traits refs u) :
    Counts m identify traits (refs ++ [d]) (u.count m identify traits d) := by
  unfold Usage.count
  cases hen : d.enabledBy traits with
  -- A disabled reference is noted only if no active one has been counted for its dependency.
  | false =>
    cases hidx : m.dependencyIndex? identify d with
    | none => exact h.disabled hen fun i hi => by rw [hidx] at hi; exact nomatch hi
    | some j =>
      dsimp only
      split
      · next hused => exact h.disabled hen fun i hi => by rw [hidx] at hi; cases hi; exact hused
      · next hused => exact h.disabledFirst hen hidx (by simpa using hused)
  -- An active reference counts for its dependency, or keeps everything if it may mean any.
  | true =>
    cases hidx : m.dependencyIndex? identify d with
    | none =>
      dsimp only
      split
      · next hun => exact h.unqualified hen hidx hun
      · next hun => exact h.qualified hidx (by simpa using hun)
    | some j => exact h.meant hen hidx

end

/-- A fold over references counts all of them. -/
theorem counts_foldl (m : Manifest) (identify : Origin → Identity) (traits : Names)
    (refs : List ModuleDependency) :
    Counts m identify traits refs (refs.foldl (Usage.count m identify traits) Usage.none) := by
  -- Induction from the end of the list, which is what a fold has counted last.
  induction refs using List.reverseRecOn with
  | nil => exact counts_none
  | append_singleton refs d ih =>
    rw [List.foldl_append]
    exact ih.count

/-- The usage of modules counts all their references. -/
theorem counts_usageOf (m : Manifest) (identify : Origin → Identity) (traits : Names)
    (modules : List ModuleDecl) :
    Counts m identify traits (modules.flatMap (·.dependencies))
      (m.usageOf identify traits modules) :=
  counts_foldl m identify traits _

/-- The required dependencies are those at the positions that are required. -/
theorem mem_requiredDependencies (m : Manifest) (identify : Origin → Identity)
    (filter : ProductFilter) (traits : Names) (dep : Dependency) (f : ProductFilter) :
    (dep, f) ∈ m.requiredDependencies identify filter traits ↔
      ∃ i, m.dependencies[i]? = some dep ∧
        requirementAt? filter (m.usageOf identify traits (m.requiredModules filter traits)) i =
          some f := by
  unfold requiredDependencies
  simp only [List.mem_filterMap, Option.map_eq_some_iff, Prod.mk.injEq, Prod.exists,
    List.mk_mem_zipIdx_iff_getElem?]
  constructor
  · rintro ⟨dep', i, hdep, f', hf, rfl, rfl⟩
    exact ⟨i, hdep, hf⟩
  · intro ⟨i, hdep, hf⟩
    exact ⟨dep, i, hdep, f, hf, rfl, rfl⟩

/-- The references of the modules that a filter requires. -/
def requiredReferences (m : Manifest) (filter : ProductFilter) (traits : Names) :
    List ModuleDependency :=
  (m.requiredModules filter traits).flatMap (·.dependencies)

/-- Nothing is required of the dependency at a position.  When everything is needed, references
mean it, and all of them are disabled.  Otherwise no enabled reference means it, and every enabled
one without a package means some dependency by its name. -/
def LeavesOut (m : Manifest) (identify : Origin → Identity) (filter : ProductFilter)
    (traits : Names) (i : Nat) : Prop :=
  match filter with
  | .everything =>
    (∃ d ∈ m.requiredReferences filter traits, m.dependencyIndex? identify d = some i) ∧
      ∀ d ∈ m.requiredReferences filter traits,
        m.dependencyIndex? identify d = some i → d.enabledBy traits = false
  | .only _ =>
    ∀ d ∈ m.requiredReferences filter traits, d.enabledBy traits = true →
      m.dependencyIndex? identify d ≠ some i ∧
        (m.isUnqualified d = true → m.dependencyIndex? identify d ≠ none)

/-- With everything needed, the dependencies that only disabled references mean are left out. -/
theorem disabledOnly_iff_leavesOut (m : Manifest) (identify : Origin → Identity) (traits : Names)
    (i : Nat) :
    i ∈ (m.usageOf identify traits (m.requiredModules .everything traits)).disabledOnly.toList ↔
      m.LeavesOut identify .everything traits i := by
  have hcounts := counts_usageOf m identify traits (m.requiredModules .everything traits)
  rw [hcounts.disabledOnly, ← Bool.not_eq_true, hcounts.used]
  constructor
  · rintro ⟨⟨d, hd, -, hidx⟩, hnot⟩
    refine ⟨⟨d, hd, hidx⟩, fun e he hidx' => ?_⟩
    by_contra hen
    exact hnot ⟨e, he, by simpa using hen, hidx'⟩
  · intro ⟨⟨d, hd, hidx⟩, hall⟩
    refine ⟨⟨d, hd, hall d hd hidx, hidx⟩, ?_⟩
    intro ⟨e, he, hen, hidx'⟩
    rw [hall e he hidx'] at hen
    exact nomatch hen

/-- With some products needed, the dependencies that no names may come from are left out. -/
theorem productsOf_empty_iff_leavesOut (m : Manifest) (identify : Origin → Identity)
    (products traits : Names) (i : Nat) :
    (∀ n, n ∉ ((m.usageOf identify traits
      (m.requiredModules (.only products) traits)).productsOf i).toList) ↔
      m.LeavesOut identify (.only products) traits i := by
  have hcounts := counts_usageOf m identify traits (m.requiredModules (.only products) traits)
  simp only [Usage.productsOf, SortedSet.mem_union, hcounts.names, hcounts.unmatched]
  -- Names come from references that mean the position, or mean no position at all.
  constructor
  · intro hempty d hd hen
    exact ⟨fun hidx => hempty d.name (.inl ⟨d, hd, hen, hidx, rfl⟩),
      fun hun hidx => hempty d.name (.inr ⟨d, hd, hen, hidx, hun, rfl⟩)⟩
  · rintro hall n (⟨d, hd, hen, hidx, -⟩ | ⟨d, hd, hen, hidx, hun, -⟩)
    · exact (hall d hd hen).1 hidx
    · exact (hall d hd hen).2 hun hidx

/-- Nothing is required of a dependency exactly if the manifest leaves it out. -/
theorem requirementAt?_eq_none {m : Manifest} {identify : Origin → Identity}
    {filter : ProductFilter} {traits : Names} {i : Nat} :
    requirementAt? filter (m.usageOf identify traits (m.requiredModules filter traits)) i = none ↔
      m.LeavesOut identify filter traits i := by
  cases filter with
  | everything =>
    rw [← disabledOnly_iff_leavesOut, ← SortedSet.contains_iff_mem]
    simp [requirementAt?]
  | only products =>
    rw [← productsOf_empty_iff_leavesOut, ← List.eq_nil_iff_forall_not_mem]
    simp [requirementAt?, KeyedSet.isEmpty]

/-- A dependency that an enabled reference of a required module means is not left out. -/
theorem not_leavesOut_of_means {m : Manifest} {identify : Origin → Identity}
    {filter : ProductFilter} {traits : Names} {i : Nat} {d : ModuleDependency}
    (hd : d ∈ m.requiredReferences filter traits) (hen : d.enabledBy traits = true)
    (hidx : m.dependencyIndex? identify d = some i) : ¬ m.LeavesOut identify filter traits i := by
  intro hout
  cases filter with
  | everything =>
    rw [hout.2 d hd hidx] at hen
    exact nomatch hen
  | only products => exact (hout d hd hen).1 hidx

/-- A reference that names a package means the first declared dependency that goes by the name. -/
theorem dependencyIndex?_of_qualified {m : Manifest} {identify : Origin → Identity}
    {d : ModuleDependency} {name package : String} {aliases : SortedMap String String}
    {dep : Dependency}
    (htarget : d.target = .product name (some package) aliases)
    (hdep : m.dependencies.find?
      (fun dep => dep.isMeantBy (identify dep.origin) package) = some dep) :
    ∃ i, m.dependencyIndex? identify d = some i ∧ m.dependencies[i]? = some dep := by
  rw [List.find?_eq_bind_findIdx?_getElem?, Option.bind_eq_some_iff] at hdep
  obtain ⟨i, hidx, hget⟩ := hdep
  refine ⟨i, ?_, hget⟩
  simpa [dependencyIndex?, referredPackage?, htarget] using hidx

/-- A dependency is required of a manifest unless the manifest leaves it out. -/
theorem exists_required_of_not_leavesOut {m : Manifest} {identify : Origin → Identity}
    {filter : ProductFilter} {traits : Names} {i : Nat} {dep : Dependency}
    (hdep : m.dependencies[i]? = some dep) (h : ¬ m.LeavesOut identify filter traits i) :
    ∃ f, (dep, f) ∈ m.requiredDependencies identify filter traits := by
  rw [← requirementAt?_eq_none, ← ne_eq, Option.ne_none_iff_exists'] at h
  obtain ⟨f, hf⟩ := h
  exact ⟨f, (mem_requiredDependencies m identify filter traits dep f).2 ⟨i, hdep, hf⟩⟩

section
variable {m : Manifest} {identify : Origin → Identity} {traits : Names} {f f' : ProductFilter}

/-- The references of required modules are references of the manifest. -/
theorem mem_references_of_required {d : ModuleDependency} (h : d ∈ m.requiredReferences f traits) :
    d ∈ m.references := by
  obtain ⟨decl, hdecl, hd⟩ := List.mem_flatMap.1 h
  exact List.mem_flatMap.2 ⟨decl, mem_modules_of_required hdecl, hd⟩

/-- More products refer to more. -/
theorem mem_requiredReferences_mono {products products' : Names}
    (hsub : ∀ name ∈ products.toList, name ∈ products'.toList) {d : ModuleDependency}
    (h : d ∈ m.requiredReferences (.only products) traits) :
    d ∈ m.requiredReferences (.only products') traits := by
  obtain ⟨decl, hdecl, hd⟩ := List.mem_flatMap.1 h
  exact List.mem_flatMap.2 ⟨decl, requiredModules_mono hsub hdecl, hd⟩

/-- With more products needed, no other dependencies are left out. -/
theorem LeavesOut.of_subset {products products' : Names} {i : Nat}
    (hsub : ∀ name ∈ products.toList, name ∈ products'.toList)
    (h : m.LeavesOut identify (.only products') traits i) :
    m.LeavesOut identify (.only products) traits i :=
  fun d hd hen => h d (mem_requiredReferences_mono hsub hd) hen

/-- What is required for a filter is required for a wider one, unless this needs everything and the
other one does not. -/
theorem exists_required_of_within (hwithin : f.Within f') {dep : Dependency} {g : ProductFilter}
    (h : (dep, g) ∈ m.requiredDependencies identify f traits) :
    (∃ g', (dep, g') ∈ m.requiredDependencies identify f' traits) ∨
      f' = .everything ∧ ∃ products, f = .only products := by
  match f, f' with
  | .everything, .everything => exact .inl ⟨g, h⟩
  | .everything, .only _ => exact hwithin.elim
  | .only products, .everything => exact .inr ⟨rfl, products, rfl⟩
  | .only products, .only products' =>
    obtain ⟨i, hdep, hg⟩ := (mem_requiredDependencies ..).1 h
    -- What is left out for the wider filter is left out for the narrower one.
    have hkept : ¬ m.LeavesOut identify (.only products') traits i := by
      intro hout
      rw [requirementAt?_eq_none.2 (hout.of_subset hwithin)] at hg
      exact nomatch hg
    exact .inl (exists_required_of_not_leavesOut hdep hkept)

end

end ModuleGraph.Manifest
