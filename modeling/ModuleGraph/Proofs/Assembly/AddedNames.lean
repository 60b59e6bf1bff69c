import ModuleGraph.Proofs.Assembly.Products

/-!
# The names of products that are not declared

A root gets test products under names that no declared product has.  If every test module gets one,
they are called like the modules; otherwise there is one for all of them.  The product for
interactive use is called after the package, whatever other products there are.

## Key results

- `mem_names_addedTestProducts`, `mem_names_addedReplProducts`: the names of products that are added
- `nodup_addedProducts_iff`: when products that are added have names of their own
-/

namespace ModuleGraph.Assembly

/-- The name of the product for interactive use. -/
def replProductName (m : Manifest) : String := m.displayName ++ "__REPL"

/-- No product is declared under a name exactly if no declared product has it. -/
theorem product?_isNone_iff {m : Manifest} {name : String} :
    (m.product? name).isNone = true ↔ name ∉ m.products.map (·.name) := by
  unfold Manifest.product?
  simp

variable {a : Assembly} {s : Staged} {name : String}

/-- The test products that are added have the names of test modules, or the one name for all of
them, as far as no declared product has it. -/
theorem mem_names_addedTestProducts :
    name ∈ (a.addedTestProducts s).map Product.name ↔
      name ∉ s.manifest.products.map (·.name) ∧
        if a.options.separateTestProducts then name ∈ (testModules s).map Module.name
        else testModules s ≠ [] ∧ name = testProductName s.manifest := by
  unfold addedTestProducts
  cases a.options.separateTestProducts with
  -- Each test asks for its own name.
  | true =>
    simp only [if_true, List.map_map, List.mem_map, List.mem_filter, product?_isNone_iff]
    constructor
    · rintro ⟨t, ⟨ht, hfree⟩, rfl⟩
      exact ⟨hfree, t, ht, rfl⟩
    · rintro ⟨hfree, t, ht, rfl⟩
      exact ⟨t, ⟨ht, hfree⟩, rfl⟩
  -- The one name is added unless there is no test or the name is taken.
  | false =>
    simp only [Bool.false_eq_true, if_false, Bool.or_eq_true, List.isEmpty_iff,
      Bool.not_eq_true', Bool.eq_false_iff, ne_eq, product?_isNone_iff, not_not]
    by_cases hadd : testModules s = [] ∨
        testProductName s.manifest ∈ s.manifest.products.map (·.name)
    · rw [if_pos hadd]
      constructor
      · exact fun hname => nomatch hname
      · rintro ⟨hfree, htests, rfl⟩
        exact absurd hadd (not_or.2 ⟨htests, hfree⟩)
    · rw [if_neg hadd]
      obtain ⟨htests, hfree⟩ := not_or.1 hadd
      constructor
      · intro hname
        have heq : name = testProductName s.manifest := List.mem_singleton.1 hname
        exact ⟨heq ▸ hfree, htests, heq⟩
      · rintro ⟨-, -, rfl⟩
        exact List.mem_singleton.2 rfl

/-- The product for interactive use is added if there are library modules. -/
theorem mem_names_addedReplProducts :
    name ∈ (a.addedReplProducts s).map Product.name ↔
      a.options.replProduct = true ∧ (∃ m ∈ s.modules, m.kind = .library) ∧
        name = replProductName s.manifest := by
  have hlibrary : (!(s.modules.filter fun m => m.kind == .library).isEmpty) = true ↔
      ∃ m ∈ s.modules, m.kind = .library := by simp
  unfold addedReplProducts
  dsimp only
  by_cases hadd : (a.options.replProduct &&
      !(s.modules.filter fun m => m.kind == .library).isEmpty) = true
  · -- It is added, and it is the only product that is.
    rw [if_pos hadd]
    obtain ⟨hrepl, hsome⟩ := Bool.and_eq_true_iff.1 hadd
    constructor
    · exact fun hname => ⟨hrepl, hlibrary.1 hsome, List.mem_singleton.1 hname⟩
    · exact fun ⟨_, _, hname⟩ => List.mem_singleton.2 hname
  · rw [if_neg hadd]
    constructor
    · exact fun hname => nomatch hname
    · exact fun ⟨hrepl, hsome, _⟩ =>
        absurd (Bool.and_eq_true_iff.2 ⟨hrepl, hlibrary.2 hsome⟩) hadd

/-- Test products that are added have names of their own if the modules have. -/
theorem nodup_addedTestProducts (hnames : (s.modules.map Module.name).Nodup) :
    ((a.addedTestProducts s).map Product.name).Nodup := by
  unfold addedTestProducts
  dsimp only
  split
  · rw [List.map_map]
    -- They are called like some of the modules.
    have hsublist : ((testModules s).filter fun t => (s.manifest.product? t.name).isNone).Sublist
        s.modules := List.filter_sublist.trans List.filter_sublist
    exact hnames.sublist (hsublist.map Module.name)
  · split
    · exact List.nodup_nil
    · exact List.nodup_singleton _

/-- At most one product is added for interactive use. -/
theorem nodup_addedReplProducts : ((a.addedReplProducts s).map Product.name).Nodup := by
  unfold addedReplProducts
  dsimp only
  split
  · exact List.nodup_singleton _
  · exact List.nodup_nil

/-- Under distinct names of modules, the products of a root that are declared and added have names
of their own exactly if the declared ones have, and if no declared product and no product of a
single test has the name of the one for interactive use, should that be added. -/
theorem nodup_addedProducts_iff (hroot : s.isRoot = true)
    (hnames : (s.modules.map Module.name).Nodup) :
    (s.manifest.products.map (·.name) ++ (a.addedProducts s).map Product.name).Nodup ↔
      (s.manifest.products.map (·.name)).Nodup ∧
        (a.options.replProduct = true → (∃ m ∈ s.modules, m.kind = .library) →
          replProductName s.manifest ∉ s.manifest.products.map (·.name) ∧
            (a.options.separateTestProducts = true →
              replProductName s.manifest ∉ (testModules s).map Module.name)) := by
  have hfree : (s.manifest.products.map (·.name)).Disjoint
      ((a.addedTestProducts s).map Product.name) :=
    fun name hdeclared htest => (mem_names_addedTestProducts.1 htest).1 hdeclared
  rw [addedProducts, if_pos hroot, List.map_append, List.nodup_append', List.nodup_append',
    List.disjoint_append_right]
  refine and_congr_right fun _ => ?_
  constructor
  · rintro ⟨⟨-, -, htests⟩, -, hdeclared⟩ hrepl hlibrary
    have hadded := mem_names_addedReplProducts.2 ⟨hrepl, hlibrary, rfl⟩
    have hown : replProductName s.manifest ∉ s.manifest.products.map (·.name) :=
      fun hname => hdeclared hname hadded
    refine ⟨hown, fun hseparate hname => htests (mem_names_addedTestProducts.2 ⟨hown, ?_⟩) hadded⟩
    rw [if_pos hseparate]
    exact hname
  · intro hapart
    refine ⟨⟨nodup_addedTestProducts hnames, nodup_addedReplProducts, fun name htest hname => ?_⟩,
      hfree, fun name hdeclared hname => ?_⟩
    · obtain ⟨hrepl, hlibrary, rfl⟩ := mem_names_addedReplProducts.1 hname
      have hkind := (mem_names_addedTestProducts.1 htest).2
      split at hkind
      · next hseparate => exact (hapart hrepl hlibrary).2 hseparate hkind
      · -- The one product for all tests is never called like that for interactive use.
        have hsame := (String.append_right_inj _).1 hkind.2
        exact absurd hsame (by decide)
    · obtain ⟨hrepl, hlibrary, rfl⟩ := mem_names_addedReplProducts.1 hname
      exact (hapart hrepl hlibrary).1 hdeclared

end ModuleGraph.Assembly
