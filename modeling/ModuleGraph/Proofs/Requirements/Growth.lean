import ModuleGraph.Proofs.Requirements.Exact

/-!
# What is required when more is needed

With more products needed, a manifest requires the same dependencies and perhaps others, and of each
of them the same products and perhaps others.  When everything is needed there is one exception:
the names that no dependency goes by may come from any dependency as long as some products are
needed, but they do not count for a dependency whose own references are all disabled.

## Key results

- `requirement?_mono`: what is required of one dependency, with more products needed
- `requirement?_everything`: everything is required of it when everything is needed, unless it is
  overlooked
- `requiredDependencies_mono`: what is required of all dependencies
-/

namespace ModuleGraph.Manifest

/-- A requirement is covered by another one, which is for the same dependency and at least the same
products of it. -/
def CoveredBy (r r' : Dependency × ProductFilter) : Prop :=
  r.1 = r'.1 ∧ r.2.Within r'.2

/-- With everything needed, the dependency at a position is overlooked: only disabled references
match it, but for some products an enabled reference without a package has counted for it, too,
which matches no dependency. -/
structure Overlooks (m : Manifest) (identify : Origin → Identity) (traits products : Names)
    (i : Nat) : Prop where
  disabled : m.OnlyDisabled identify traits m.references i
  unmatched : ∃ d ∈ m.requiredReferences (.only products) traits, d.enabledBy traits = true ∧
    m.RefersToProduct d none ∧ ∀ j, ¬ m.Matches identify d j

section
variable {m : Manifest} {identify : Origin → Identity} {traits products products' : Names} {i : Nat}

/-- From more references more may come. -/
theorem MayComeFrom.mono {refs refs' : List ModuleDependency} (hsub : ∀ d ∈ refs, d ∈ refs')
    {name : String} (h : m.MayComeFrom identify traits refs i name) :
    m.MayComeFrom identify traits refs' i name := by
  obtain ⟨d, hd, hcomes⟩ := h
  exact ⟨d, hsub d hd, hcomes⟩

/-- Some name may come from a dependency of which some products are required. -/
theorem exists_mayComeFrom {f : ProductFilter}
    (h : m.requirement? identify traits (.only products) i = some f) :
    ∃ name,
      m.MayComeFrom identify traits (m.requiredReferences (.only products) traits) i name := by
  by_contra hnone
  rw [requirement?_only_eq_none.2 (not_exists.1 hnone)] at h
  exact nomatch h

/-- Something is required of a dependency from which some name may come. -/
theorem exists_requirement? {name : String} (h : m.MayComeFrom identify traits
    (m.requiredReferences (.only products) traits) i name) :
    ∃ f, m.requirement? identify traits (.only products) i = some f := by
  rw [← Option.ne_none_iff_exists']
  intro hout
  exact requirement?_only_eq_none.1 hout name h

/-- With more products needed, what has been required of a dependency still is. -/
theorem requirement?_mono (hsub : ∀ name ∈ products.toList, name ∈ products'.toList)
    {f : ProductFilter} (h : m.requirement? identify traits (.only products) i = some f) :
    ∃ f', m.requirement? identify traits (.only products') i = some f' ∧ f.Within f' := by
  have hrefs : ∀ d ∈ m.requiredReferences (.only products) traits,
      d ∈ m.requiredReferences (.only products') traits :=
    fun d hd => mem_requiredReferences_mono hsub hd
  obtain ⟨name, hname⟩ := exists_mayComeFrom h
  obtain ⟨f', hf'⟩ := exists_requirement? (hname.mono hrefs)
  refine ⟨f', hf', ?_⟩
  obtain ⟨names, rfl, hnames⟩ := eq_only_of_requirement? h
  obtain ⟨names', rfl, hnames'⟩ := eq_only_of_requirement? hf'
  exact fun n hn => (hnames' n).2 (((hnames n).1 hn).mono hrefs)

/-- With everything needed, everything is required of a dependency of which some products have been
required, unless it is overlooked. -/
theorem requirement?_everything {f : ProductFilter}
    (h : m.requirement? identify traits (.only products) i = some f)
    (hkept : ¬ m.Overlooks identify traits products i) :
    m.requirement? identify traits .everything i = some .everything := by
  cases hall : m.requirement? identify traits .everything i with
  | some f' => rw [eq_everything_of_requirement? hall]
  | none =>
    have hdisabled := requirement?_everything_eq_none.1 hall
    -- An enabled reference matches no position that only disabled ones match.
    obtain ⟨name, d, hd, hen, -, hmatch | hnone⟩ := exists_mayComeFrom h
    · exact absurd ⟨d, mem_references_of_required hd, hen, hmatch⟩ hdisabled.2
    · exact absurd ⟨hdisabled, d, hd, hen, hnone⟩ hkept

/-- A dependency that is overlooked is declared, and nothing is required of it when everything is
needed. -/
theorem Overlooks.left_out (h : m.Overlooks identify traits products i) :
    (∃ dep, m.dependencies[i]? = some dep) ∧
      m.requirement? identify traits .everything i = none := by
  refine ⟨?_, requirement?_everything_eq_none.2 h.disabled⟩
  obtain ⟨⟨d, -, -, _, dep, -, hdep, -⟩, -⟩ := h.disabled
  exact ⟨dep, hdep⟩

/-- Where a dependency is overlooked, something is required of every dependency for the products. -/
theorem Overlooks.exists_requirement? (h : m.Overlooks identify traits products i) (j : Nat) :
    ∃ f, m.requirement? identify traits (.only products) j = some f := by
  obtain ⟨d, hd, hen, hun, hnone⟩ := h.unmatched
  exact Manifest.exists_requirement? ⟨d, hd, hen, rfl, .inr ⟨hun, hnone⟩⟩

/-- Where a dependency is overlooked, all dependencies are required for the products, but not all
when everything is needed. -/
theorem Overlooks.length_lt (h : m.Overlooks identify traits products i) :
    (m.requiredDependencies identify .everything traits).length <
      (m.requiredDependencies identify (.only products) traits).length := by
  have hall : (m.requiredDependencies identify (.only products) traits).length =
      m.dependencies.zipIdx.length := by
    refine List.filterMap_length_eq_length.2 fun ⟨dep, j⟩ _ => ?_
    obtain ⟨f, hf⟩ := h.exists_requirement? j
    exact Option.isSome_map.trans (Option.isSome_iff_exists.2 ⟨f, hf⟩)
  rw [hall]
  obtain ⟨⟨dep, hdep⟩, hout⟩ := h.left_out
  have hmem : (dep, i) ∈ m.dependencies.zipIdx := List.mk_mem_zipIdx_iff_getElem?.2 hdep
  exact List.length_filterMap_lt_length_iff_exists.2 ⟨_, hmem, Option.map_eq_none_iff.2 hout⟩

/-- Requirements are covered if those of every dependency are. -/
theorem sublistForall₂_coveredBy {filter filter' : ProductFilter}
    (h : ∀ i f, m.requirement? identify traits filter i = some f →
      ∃ f', m.requirement? identify traits filter' i = some f' ∧ f.Within f') :
    List.SublistForall₂ CoveredBy (m.requiredDependencies identify filter traits)
      (m.requiredDependencies identify filter' traits) := by
  refine List.sublistForall₂_filterMap fun ⟨dep, i⟩ _ r hr => ?_
  obtain ⟨f, hf, rfl⟩ := Option.map_eq_some_iff.1 hr
  obtain ⟨f', hf', hwithin⟩ := h i f hf
  exact ⟨(dep, f'), Option.map_eq_some_iff.2 ⟨f', hf', rfl⟩, rfl, hwithin⟩

/-- With more products needed, a manifest requires the same dependencies in the same order, of each
of them at least the same products, and perhaps others between them.  With everything needed the
same is true exactly if no dependency is overlooked. -/
theorem requiredDependencies_mono (hsub : ∀ name ∈ products.toList, name ∈ products'.toList) :
    List.SublistForall₂ CoveredBy (m.requiredDependencies identify (.only products) traits)
      (m.requiredDependencies identify (.only products') traits) ∧
    (List.SublistForall₂ CoveredBy (m.requiredDependencies identify (.only products') traits)
        (m.requiredDependencies identify .everything traits) ↔
      ∀ i, ¬ m.Overlooks identify traits products' i) := by
  refine ⟨sublistForall₂_coveredBy fun i f hf => requirement?_mono hsub hf, ?_, ?_⟩
  · intro hcovered i hi
    exact absurd hcovered.length_le (Nat.not_le.2 hi.length_lt)
  · intro hkept
    refine sublistForall₂_coveredBy fun i f hf => ?_
    exact ⟨.everything, requirement?_everything hf (hkept i), trivial⟩

end

/-- The package `tools` is required for both products, but not when everything is needed. -/
theorem requiredDependencies_mono_overlookingTools :
    (∀ name ∈ (KeyedSet.ofList ["Lib"] : Names).toList,
      name ∈ (KeyedSet.ofList ["App", "Lib"] : Names).toList) ∧
    List.SublistForall₂ CoveredBy
      (overlookingTools.requiredDependencies (Mirrors.identify KeyedSet.empty) (.ofList ["Lib"])
        KeyedSet.empty)
      (overlookingTools.requiredDependencies (Mirrors.identify KeyedSet.empty)
        (.ofList ["App", "Lib"]) KeyedSet.empty) ∧
    overlookingTools.Overlooks (Mirrors.identify KeyedSet.empty) KeyedSet.empty
      (KeyedSet.ofList ["App", "Lib"]) 1 ∧
    ¬ List.SublistForall₂ CoveredBy
      (overlookingTools.requiredDependencies (Mirrors.identify KeyedSet.empty)
        (.ofList ["App", "Lib"]) KeyedSet.empty)
      (overlookingTools.requiredDependencies (Mirrors.identify KeyedSet.empty) .everything
        KeyedSet.empty) := by
  have hsub : ∀ name ∈ (KeyedSet.ofList ["Lib"] : Names).toList,
      name ∈ (KeyedSet.ofList ["App", "Lib"] : Names).toList := by decide +kernel
  have hover : overlookingTools.Overlooks (Mirrors.identify KeyedSet.empty) KeyedSet.empty
      (KeyedSet.ofList ["App", "Lib"]) 1 := by
    refine ⟨requirement?_everything_eq_none.1 (by decide +kernel),
      ⟨.product "Foo" none KeyedSet.empty, none⟩, by decide +kernel, by decide, .product rfl, ?_⟩
    exact dependencyIndex?_eq_none.1 (by decide +kernel)
  obtain ⟨hgrows, hcovered⟩ := requiredDependencies_mono (m := overlookingTools) hsub
  exact ⟨hsub, hgrows, hover, fun h => hcovered.1 h 1 hover⟩

end ModuleGraph.Manifest
