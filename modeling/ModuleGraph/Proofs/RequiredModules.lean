import ModuleGraph.Manifest.Requirements
import ModuleGraph.Proofs.KeyedSet
import ModuleGraph.Proofs.List
import ModuleGraph.Proofs.Loop

/-!
# Which modules a filter requires

The modules that products are built from are found by looking at names: first at the members of the
products, then at what enabled dependencies of the modules found so far lead to.  Every name is
looked at once, so the bound on the steps suffices, and in the end the modules have been found
whose names are looked at for the products.  More products need more modules.

## Key results

- `requireNext_next`: what one step does
- `requiredModules_ends`: the bound on the steps suffices
- `mem_requiredModules_only`: which modules the products of a filter require
- `requiredModules_mono`: more products require more modules
-/

namespace ModuleGraph.Manifest

/-- A name is looked at for some products: a member of a product, or a name to which an enabled
dependency leads from a module whose name is looked at. -/
inductive LooksAt (m : Manifest) (traits products : Names) : String → Prop
  | member {name : String} (hname : name ∈ m.membersOf products) : LooksAt m traits products name
  | sibling {name name' : String} {decl : ModuleDecl} {d : ModuleDependency}
      (h : LooksAt m traits products name) (hdecl : m.module? name = some decl)
      (hd : d ∈ decl.dependencies) (hname : siblingName? traits d = some name') :
      LooksAt m traits products name'

/-- A name has been seen, or it is pending. -/
def ModuleClosure.Met (s : ModuleClosure) (name : String) : Prop :=
  name ∈ s.pending ∨ name ∈ s.seen

/-- What holds before every step: only names to be looked at have been met, all members have, and
so have all names to which the modules found so far lead. -/
structure Looking (m : Manifest) (traits products : Names) (s : ModuleClosure) : Prop where
  looksAt : ∀ name, s.Met name → m.LooksAt traits products name
  members : ∀ name ∈ m.membersOf products, s.Met name
  siblings : ∀ name ∈ s.seen, ∀ decl, m.module? name = some decl → ∀ d ∈ decl.dependencies,
    ∀ name', siblingName? traits d = some name' → s.Met name'
  found : ∀ decl, decl ∈ s.found ↔ ∃ name ∈ s.seen, m.module? name = some decl

/-- The names that may still be looked at: those that are pending, and one for every dependency of
a module whose name has not been seen. -/
def looksLeft (m : Manifest) (s : ModuleClosure) : Nat :=
  s.pending.length +
    ((m.modules.filter fun decl => !s.seen.contains decl.name).map
      fun decl => decl.dependencies.length).sum

section
variable {m : Manifest} {traits products : Names} {s s' : ModuleClosure}

/-! ### Declarations -/

/-- The declaration of a module has its name. -/
theorem name_of_module? {name : String} {decl : ModuleDecl} (h : m.module? name = some decl) :
    decl.name = name := by
  simpa using List.find?_some h

/-- The members of some products are the names that these list. -/
theorem mem_membersOf {name : String} : name ∈ m.membersOf products ↔
    ∃ p ∈ m.products, p.name ∈ products.toList ∧ name ∈ p.modules := by
  simp only [membersOf, List.mem_flatMap, List.mem_filter, SortedSet.contains_iff_mem, and_assoc]

/-! ### One step -/

/-- A step that goes on takes one name.  It has been seen, or it is that of no module, or it is that
of a module, which is found. -/
theorem requireNext_next (h : m.requireNext traits s = .next s') :
    ∃ name pending, s.pending = name :: pending ∧
      ((name ∈ s.seen ∧ s' = { s with pending }) ∨
        (name ∉ s.seen ∧ m.module? name = none ∧
          s' = { s with pending, seen := name :: s.seen }) ∨
        ∃ decl, name ∉ s.seen ∧ m.module? name = some decl ∧
          s' = ⟨(decl.dependencies.filterMap (siblingName? traits)).reverse ++ pending,
            name :: s.seen, decl :: s.found⟩) := by
  unfold requireNext at h
  split at h
  · exact nomatch h
  · next name pending hpending =>
    refine ⟨name, pending, hpending, ?_⟩
    split at h
    · next hseen =>
      cases h
      exact .inl ⟨by simpa using hseen, rfl⟩
    · next hseen =>
      have hseen : name ∉ s.seen := by simpa using hseen
      split at h
      · next hnone =>
        cases h
        exact .inr (.inl ⟨hseen, hnone, rfl⟩)
      · next decl hdecl =>
        cases h
        exact .inr (.inr ⟨decl, hseen, hdecl, rfl⟩)

/-- The last step has no name left and gives what has been found. -/
theorem requireNext_done {found : List ModuleDecl} (h : m.requireNext traits s = .done found) :
    s.pending = [] ∧ found = s.found.reverse := by
  unfold requireNext at h
  split at h
  · next hpending =>
    cases h
    exact ⟨hpending, rfl⟩
  · split at h
    · exact nomatch h
    · split at h <;> exact nomatch h

/-- Nothing but the members has been met at first. -/
theorem looking_start (m : Manifest) (traits products : Names) :
    m.Looking traits products ⟨(m.membersOf products).reverse, [], []⟩ where
  looksAt := by
    rintro name (hname | hname)
    · exact .member (List.mem_reverse.1 hname)
    · exact nomatch hname
  members := fun name hname => .inl (List.mem_reverse.2 hname)
  siblings := fun _ hname => nomatch hname
  found := by simp

/-- A step keeps the invariant. -/
theorem Looking.next (hs : m.Looking traits products s) (h : m.requireNext traits s = .next s') :
    m.Looking traits products s' := by
  obtain ⟨hlooks, hmembers, hsiblings, hfound⟩ := hs
  obtain ⟨name, pending, hpending, hcase⟩ := requireNext_next h
  have hname : m.LooksAt traits products name := hlooks name (.inl (by simp [hpending]))
  rcases hcase with ⟨hseen, rfl⟩ | ⟨-, hnone, rfl⟩ | ⟨decl, hseen, hdecl, rfl⟩
  · -- The same names have been met.
    have hmet (n : String) : s.Met n ↔ ModuleClosure.Met { s with pending } n := by
      simp only [ModuleClosure.Met, hpending, List.mem_cons]
      constructor
      · rintro ((rfl | hn) | hn)
        · exact .inr hseen
        · exact .inl hn
        · exact .inr hn
      · exact Or.imp_left .inr
    exact ⟨fun n hn => hlooks n ((hmet n).2 hn), fun n hn => (hmet n).1 (hmembers n hn),
      fun n hn e he d hd n' hn' => (hmet n').1 (hsiblings n hn e he d hd n' hn'), hfound⟩
  · -- The name has been pending and is seen now, but no module is found under it.
    have hmet (n : String) :
        s.Met n ↔ ModuleClosure.Met { s with pending, seen := name :: s.seen } n := by
      simp only [ModuleClosure.Met, hpending, List.mem_cons]
      grind
    refine ⟨fun n hn => hlooks n ((hmet n).2 hn), fun n hn => (hmet n).1 (hmembers n hn),
      fun n hn e he d hd n' hn' => ?_, fun e => ?_⟩
    · rcases List.mem_cons.1 hn with rfl | hn
      · rw [hnone] at he
        exact nomatch he
      · exact (hmet n').1 (hsiblings n hn e he d hd n' hn')
    · simp [hfound, hnone]
  · -- The module is found, and the names to which it leads are pending.
    have hmet (n : String) : ModuleClosure.Met
        ⟨(decl.dependencies.filterMap (siblingName? traits)).reverse ++ pending, name :: s.seen,
          decl :: s.found⟩ n ↔
        s.Met n ∨ ∃ d ∈ decl.dependencies, siblingName? traits d = some n := by
      simp only [ModuleClosure.Met, hpending, List.mem_cons, List.mem_append, List.mem_reverse,
        List.mem_filterMap]
      grind
    refine ⟨fun n hn => ?_, fun n hn => (hmet n).2 (.inl (hmembers n hn)),
      fun n hn e he d hd n' hn' => (hmet n').2 ?_, fun e => ?_⟩
    · rcases (hmet n).1 hn with hn | ⟨d, hd, hn⟩
      · exact hlooks n hn
      · exact .sibling hname hdecl hd hn
    · rcases List.mem_cons.1 hn with rfl | hn
      · have hsame : decl = e := Option.some.inj (hdecl.symm.trans he)
        exact .inr ⟨d, hsame ▸ hd, hn'⟩
      · exact .inl (hsiblings n hn e he d hd n' hn')
    · simp [hfound, hdecl, eq_comm]

/-- With every step fewer names are left. -/
theorem looksLeft_next (h : m.requireNext traits s = .next s') :
    m.looksLeft s' < m.looksLeft s := by
  obtain ⟨name, pending, hpending, hcase⟩ := requireNext_next h
  rcases hcase with ⟨-, rfl⟩ | ⟨-, -, rfl⟩ | ⟨decl, hseen, hdecl, rfl⟩
  · -- A name seen before: one pending name fewer.
    simp only [looksLeft, hpending, List.length_cons]
    omega
  · -- The name of no module: the modules not yet seen stay or get fewer.
    have hsum := List.sum_filter_le m.modules (fun decl => decl.dependencies.length)
      (fun decl => !s.seen.contains decl.name) (fun decl => !(name :: s.seen).contains decl.name)
      fun decl _ hnew => by
        simp only [List.contains_cons, Bool.not_or, Bool.and_eq_true] at hnew
        exact hnew.2
    simp only [looksLeft, hpending, List.length_cons]
    omega
  · -- A module is found: its dependencies are counted no more, and at most as many names are
    -- pending.
    have hname : decl.name = name := name_of_module? hdecl
    have hsum := List.sum_filter_add_le m.modules (fun decl => decl.dependencies.length)
      (fun decl => !s.seen.contains decl.name) (fun decl => !(name :: s.seen).contains decl.name)
      (fun decl _ hnew => by
        simp only [List.contains_cons, Bool.not_or, Bool.and_eq_true] at hnew
        exact hnew.2)
      decl (List.mem_of_find?_eq_some hdecl) (by simpa [hname] using hseen) (by simp [hname])
    have hlength := List.length_filterMap_le (siblingName? traits) decl.dependencies
    simp only [looksLeft, hpending, List.length_cons, List.length_append, List.length_reverse]
    omega

/-! ### All steps -/

/-- The search for modules ends, however they depend on each other: its bound suffices. -/
theorem requiredModules_ends (m : Manifest) (products traits : Names) :
    Loop.Ends (m.requireNext traits) ⟨(m.membersOf products).reverse, [], []⟩
      (m.requiredModules (.only products) traits) := by
  have hbound : m.looksLeft ⟨(m.membersOf products).reverse, [], []⟩ <
      m.closureBound (m.membersOf products).reverse := by
    simp [looksLeft, closureBound, List.length_flatMap]
  exact Loop.ends_getD m.looksLeft (fun _ _ => looksLeft_next) hbound []

/-- The search for modules ends with the invariant. -/
theorem exists_looking (m : Manifest) (traits products : Names) :
    ∃ s, m.Looking traits products s ∧ s.pending = [] ∧
      m.requiredModules (.only products) traits = s.found.reverse :=
  (m.requiredModules_ends products traits).post (m.Looking traits products)
    (fun found => ∃ s, m.Looking traits products s ∧ s.pending = [] ∧ found = s.found.reverse)
    (fun _ _ hs hnext => hs.next hnext)
    (fun s _ hs hdone => ⟨s, hs, requireNext_done hdone⟩)
    (m.looking_start traits products)

/-- The products of a filter require the modules whose names are looked at for them. -/
theorem mem_requiredModules_only {decl : ModuleDecl} :
    decl ∈ m.requiredModules (.only products) traits ↔
      ∃ name, m.LooksAt traits products name ∧ m.module? name = some decl := by
  obtain ⟨s, hs, hpending, hfound⟩ := m.exists_looking traits products
  -- Nothing is pending in the end, so the names that have been met have been seen.
  have hseen (name : String) (hmet : s.Met name) : name ∈ s.seen := by
    rcases hmet with hname | hname
    · rw [hpending] at hname
      exact nomatch hname
    · exact hname
  have hall (name : String) (h : m.LooksAt traits products name) : name ∈ s.seen := by
    induction h with
    | member hname => exact hseen _ (hs.members _ hname)
    | sibling _ hdecl hd hname ih => exact hseen _ (hs.siblings _ ih _ hdecl _ hd _ hname)
  rw [hfound, List.mem_reverse, hs.found]
  constructor
  · rintro ⟨name, hname, hdecl⟩
    exact ⟨name, hs.looksAt name (.inr hname), hdecl⟩
  · rintro ⟨name, hlooks, hdecl⟩
    exact ⟨name, hall name hlooks, hdecl⟩

/-- The required modules are modules of the package. -/
theorem mem_modules_of_required {filter : ProductFilter} {decl : ModuleDecl}
    (h : decl ∈ m.requiredModules filter traits) : decl ∈ m.modules := by
  cases filter with
  | everything => exact h
  | only products =>
    obtain ⟨name, -, hdecl⟩ := mem_requiredModules_only.1 h
    exact List.mem_of_find?_eq_some hdecl

/-- More products have more members. -/
theorem mem_membersOf_mono {products' : Names}
    (hsub : ∀ name ∈ products.toList, name ∈ products'.toList) {name : String}
    (h : name ∈ m.membersOf products) : name ∈ m.membersOf products' := by
  obtain ⟨p, hp, hproduct, hname⟩ := mem_membersOf.1 h
  exact mem_membersOf.2 ⟨p, hp, hsub _ hproduct, hname⟩

/-- More products look at more names. -/
theorem LooksAt.mono {products' : Names}
    (hsub : ∀ name ∈ products.toList, name ∈ products'.toList) {name : String}
    (h : m.LooksAt traits products name) : m.LooksAt traits products' name := by
  induction h with
  | member hname => exact .member (mem_membersOf_mono hsub hname)
  | sibling _ hdecl hd hname ih => exact .sibling ih hdecl hd hname

/-- More products require more modules. -/
theorem requiredModules_mono {products' : Names}
    (hsub : ∀ name ∈ products.toList, name ∈ products'.toList) {decl : ModuleDecl}
    (h : decl ∈ m.requiredModules (.only products) traits) :
    decl ∈ m.requiredModules (.only products') traits := by
  obtain ⟨name, hlooks, hdecl⟩ := mem_requiredModules_only.1 h
  exact mem_requiredModules_only.2 ⟨name, hlooks.mono hsub, hdecl⟩

end

end ModuleGraph.Manifest
