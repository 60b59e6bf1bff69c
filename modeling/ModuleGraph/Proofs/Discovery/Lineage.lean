import ModuleGraph.Proofs.Discovery.Passes

/-!
# What led to the packages that discovery has met

Every package that has been met is an input, or it has a parent: a package that had been met before
and declares it.  So climbing from parent to parent comes to packages that were met earlier and
earlier, whatever cycles the dependencies have, and it ends at an input.  No package comes twice on
the way, and the bound on the climb suffices.

## Key results

- `Lineage.declare`, `Passes.lineage`: what led to the packages that have been met
- `Lineage.climb_descends`: a climb ends at an input
- `Lineage.chainTo_descends`: the chain to a package begins with an input
-/

namespace ModuleGraph

/-- A chain of packages from an input to a package, each of which declares the next one. -/
structure Catalog.Descends (c : Catalog) (mirrors : Mirrors) (extra : List Dependency)
    (chain : List Identity) (id : Identity) : Prop where
  input : ∃ a, chain.head? = some a ∧ c.IsInput mirrors extra a
  declares : chain.IsChain (c.Declares mirrors)
  last : chain.getLast? = some id

namespace Discovery

variable {c : Catalog} {mirrors : Mirrors} {extra todo : List Dependency}
  {filter f : ProductFilter} {visiting parent : Option Identity} {dep : Dependency}
  {d d' : Discovery}

/-! ### Parents -/

/-- What becomes of the packages that have been met, and of their parents, when a package is
declared. -/
inductive Parented (c : Catalog) (parent : Option Identity) (id : Identity) (d d' : Discovery) :
    Prop where
  /-- No package is met. -/
  | kept (horder : d'.order = d.order) (hparents : d'.parents = d.parents)
  /-- The package is met for the first time. -/
  | first (hhas : c.has id = true) (hget : SortedMap.get? d.filters id = none)
      (horder : d'.order = d.order ++ [id])
      (hparents : d'.parents = match parent with
        | some p => SortedMap.put d.parents id p
        | none => d.parents)

/-- Every package that has been met is an input, or it has a parent, which has been met before and
declares it. -/
structure Lineage (c : Catalog) (mirrors : Mirrors) (extra : List Dependency) (d : Discovery) :
    Prop where
  parents : ∀ id p, SortedMap.get? d.parents id = some p →
    c.Declares mirrors p id ∧ p ∈ d.order ∧ d.order.idxOf p < d.order.idxOf id
  inputs : ∀ id ∈ d.order, SortedMap.get? d.parents id = none → c.IsInput mirrors extra id

/-- A need is met by a package that is new, with its parent, or changes neither. -/
theorem parented_need (c : Catalog) (d : Discovery) (parent : Option Identity) (id : Identity)
    (f : ProductFilter) : Parented c parent id d (d.need c parent id f) := by
  unfold need
  cases hhas : c.has id with
  | false => exact .kept rfl rfl
  | true =>
    simp only [Bool.not_true, Bool.false_eq_true, if_false]
    cases hget : SortedMap.get? d.filters id with
    | none => exact .first hhas hget rfl rfl
    | some old => exact .kept rfl rfl

/-- A declaration that succeeds. -/
theorem parented_declare (h : declare c mirrors parent d (dep, f) = .ok d') :
    Parented c parent (mirrors.identify dep.origin) d d' := by
  unfold declare at h
  obtain ⟨_, -, h⟩ := Except.bind_eq_ok.1 h
  obtain ⟨d₁, hname, h⟩ := Except.bind_eq_ok.1 h
  cases h
  obtain ⟨names, rfl⟩ := enterName_ok hname
  obtain ⟨declarations, required, hdecl⟩ := enterDeclaration_fields c { d with names } parent dep
    (mirrors.identify dep.origin)
  rw [hdecl]
  obtain ⟨edges, unloaded, hentered, -⟩ := enterEdge_fields c
    { d with names, declarations, required } parent (mirrors.identify dep.origin)
  rw [hentered]
  -- What was entered before the need concerns neither packages nor parents.
  cases parented_need c { d with names, declarations, required, edges, unloaded } parent
    (mirrors.identify dep.origin) f with
  | kept horder hparents => exact .kept horder hparents
  | first hhas hget horder hparents => exact .first hhas hget horder hparents

/-- A package that is met by a declaration keeps the lineage: it is an extra dependency, or its
parent is the package that declares it. -/
theorem Lineage.declare (hd : Lineage c mirrors extra d)
    (htraced : Traced c mirrors (c.startsOf mirrors extra) d)
    (hparent : ∀ p ∈ parent, p ∈ d.order) (hdep : c.HasDependency extra parent dep)
    (h : declare c mirrors parent d (dep, f) = .ok d') : Lineage c mirrors extra d' := by
  have hparented := parented_declare h
  generalize hid : mirrors.identify dep.origin = id at hparented
  cases hparented with
  | kept horder hparents =>
    refine ⟨?_, ?_⟩ <;> rw [horder, hparents]
    · exact hd.parents
    · exact hd.inputs
  | first hhas hget horder hparents =>
    have hnew : id ∉ d.order := by
      intro hmem
      have hsome := (htraced.entered id).2 hmem
      rw [hget] at hsome
      exact nomatch hsome
    -- Packages that were met before keep their places, and no other one has a place before them.
    have hplace (q : Identity) (hq : q ∈ d.order) : d'.order.idxOf q = d.order.idxOf q := by
      rw [horder, List.idxOf_append_of_mem hq]
    have hlater (p q : Identity) (hp : p ∈ d.order) (hq : q ∉ d.order) :
        d'.order.idxOf p < d'.order.idxOf q := by
      rw [hplace p hp, horder, List.idxOf_append_of_notMem hq]
      exact lt_of_lt_of_le (List.idxOf_lt_length_of_mem hp) (Nat.le_add_right _ _)
    have hold (q p : Identity) (hq : SortedMap.get? d.parents q = some p) :
        c.Declares mirrors p q ∧ p ∈ d'.order ∧ d'.order.idxOf p < d'.order.idxOf q := by
      obtain ⟨hdeclares, hp, hbefore⟩ := hd.parents q p hq
      refine ⟨hdeclares, horder ▸ List.mem_append_left _ hp, ?_⟩
      by_cases hmem : q ∈ d.order
      · rw [hplace p hp, hplace q hmem]
        exact hbefore
      · exact hlater p q hp hmem
    cases parent with
    | none =>
      -- Without a package to be in, it is an extra dependency that is declared.
      have hparents : d'.parents = d.parents := hparents
      rw [← hparents] at hold
      refine ⟨hold, fun q hq hnone => ?_⟩
      rw [horder] at hq
      rw [hparents] at hnone
      rcases List.mem_append.1 hq with hq | hq
      · exact hd.inputs q hq hnone
      · rw [List.mem_singleton.1 hq]
        exact .inr ⟨hhas, dep, hdep, hid⟩
    | some p =>
      have hparents : d'.parents = SortedMap.put d.parents id p := hparents
      have hp : p ∈ d.order := hparent p rfl
      obtain ⟨m, hm, hmem⟩ := hdep
      refine ⟨fun q p' hq => ?_, fun q hq hnone => ?_⟩
      · rcases SortedMap.get?_put_eq_some.1 (hparents ▸ hq) with ⟨rfl, rfl⟩ | ⟨-, hq⟩
        · exact ⟨⟨m, hm, dep, hmem, hid⟩, horder ▸ List.mem_append_left _ hp, hlater _ _ hp hnew⟩
        · exact hold q p' hq
      · obtain ⟨hne, hnone⟩ := SortedMap.get?_put_eq_none.1 (hparents ▸ hnone)
        rw [horder] at hq
        rcases List.mem_append.1 hq with hq | hq
        · exact hd.inputs q hq hnone
        · exact absurd (List.mem_singleton.1 hq) hne

/-- Every package that has been met is an input or has a parent. -/
theorem Passes.lineage (hroots : c.ListsRoots)
    (h : Passes c mirrors extra filter todo visiting d) : Lineage c mirrors extra d := by
  induction h with
  -- Entering the roots gives no one a parent, and lists only them.
  | roots =>
    have hparents : (c.roots.foldl (enterRoot c filter) empty).parents = KeyedSet.empty :=
      List.foldlRecOn c.roots (enterRoot c filter)
        (motive := fun d : Discovery => d.parents = KeyedSet.empty) rfl fun _ hd _ _ => hd
    have horder : (c.roots.foldl (enterRoot c filter) empty).order = c.roots :=
      (enterRoots_fields c filter c.roots empty).2
    refine ⟨fun id p hget => ?_, fun id hid _ => .inl (horder ▸ hid)⟩
    rw [hparents] at hget
    exact nomatch hget
  | @extra dep todo d _ h hstep ih =>
    have hdep : c.HasDependency extra none dep := h.todo_suffix.subset List.mem_cons_self
    unfold enterExtra at hstep
    obtain ⟨d₁, hdeclare, hpure⟩ := Except.bind_eq_ok.1 hstep
    cases hpure
    -- An input is declared by nobody.
    have hnone : ∀ p ∈ (none : Option Identity), p ∈ d.order := fun p hp => nomatch hp
    obtain ⟨hparents, hinputs⟩ := ih.declare (h.traced hroots).1 hnone hdep hdeclare
    exact ⟨hparents, hinputs⟩
  | visit _ _ ih => exact ⟨ih.parents, ih.inputs⟩
  | declared h hdep hstep ih =>
    obtain ⟨htraced, hvisited⟩ := h.traced hroots
    exact ih.declare htraced hvisited hdep hstep

/-! ### Chains -/

/-- One package is the parent of another one. -/
def IsParent (d : Discovery) (p q : Identity) : Prop := SortedMap.get? d.parents q = some p

/-- In a chain of parents, packages come in the order of meeting them. -/
theorem Lineage.pairwise_of_isChain (hd : Lineage c mirrors extra d) {chain : List Identity}
    (h : chain.IsChain d.IsParent) :
    chain.Pairwise fun p q => d.order.idxOf p < d.order.idxOf q := by
  have hplaces : (chain.map d.order.idxOf).IsChain (· < ·) :=
    (List.isChain_map _).2 (h.imp fun p q hparent => (hd.parents q p hparent).2.2)
  exact List.pairwise_map.1 hplaces.pairwise

/-- Below the first package of a chain, there are no more packages than there are parents. -/
theorem Lineage.length_le_of_isChain (hd : Lineage c mirrors extra d) {current : Identity}
    {below : List Identity} (h : (current :: below).IsChain d.IsParent) :
    below.length ≤ d.parents.size := by
  have hnodup : below.Nodup :=
    (hd.pairwise_of_isChain h).of_cons.imp fun hlt heq => absurd (heq ▸ hlt) (lt_irrefl _)
  -- Each of them has a parent in the chain, so it is a key of the parents.
  have hkeys : below ⊆ d.parents.toList.map (·.1) := by
    clear hnodup
    induction below generalizing current with
    | nil => exact List.nil_subset _
    | cons q below ih =>
      obtain ⟨hparent, hrest⟩ := List.isChain_cons_cons.1 h
      refine List.cons_subset.2 ⟨?_, ih hrest⟩
      exact List.mem_map.2 ⟨(q, current), SortedMap.get?_eq_some_iff.1 hparent, rfl⟩
  simpa [KeyedSet.size] using hnodup.length_le_of_subset hkeys

/-- A climb with enough steps ends at an input, and keeps the chain that is there. -/
theorem Lineage.climb_descends (hd : Lineage c mirrors extra d) {n : Nat} {current : Identity}
    {below : List Identity} (hchain : (current :: below).IsChain d.IsParent)
    (hcurrent : current ∈ d.order) (hn : d.parents.size < n + below.length) :
    ∃ front a rest, climb d.parents n (current :: below) = front ++ current :: below ∧
      front ++ current :: below = a :: rest ∧ c.IsInput mirrors extra a ∧
      (a :: rest).IsChain d.IsParent := by
  induction n generalizing current below with
  | zero =>
    -- A chain that leaves no steps would have more packages than there are parents.
    have hlength := hd.length_le_of_isChain hchain
    omega
  | succ n ih =>
    cases hget : SortedMap.get? d.parents current with
    | none =>
      refine ⟨[], current, below, ?_, rfl, hd.inputs current hcurrent hget, hchain⟩
      simp [climb, hget]
    | some p =>
      obtain ⟨-, hp, hbefore⟩ := hd.parents current p hget
      -- The parent was met before all packages of the chain, so it is none of them.
      have hnew : p ∉ current :: below := by
        intro hmem
        rcases List.mem_cons.1 hmem with rfl | hmem
        · exact lt_irrefl _ hbefore
        · exact lt_asymm hbefore (List.rel_of_pairwise_cons (hd.pairwise_of_isChain hchain) hmem)
      obtain ⟨front, a, rest, hclimb, hsplit, hinput, hwhole⟩ :=
        ih (List.isChain_cons_cons.2 ⟨hget, hchain⟩) hp (by simp only [List.length_cons]; omega)
      refine ⟨front ++ [p], a, rest, ?_, by simpa using hsplit, hinput, hwhole⟩
      rw [climb, hget]
      dsimp only
      rw [if_neg (by simpa using hnew), hclimb]
      simp

/-- The chain to a package that has been met begins with an input. -/
theorem Lineage.chainTo_descends (hd : Lineage c mirrors extra d) {id : Identity}
    (hid : id ∈ d.order) : c.Descends mirrors extra (d.chainTo id) id := by
  -- There are at least as many steps as parents, so the climb gets to an input.
  obtain ⟨front, a, rest, hclimb, hsplit, hinput, hwhole⟩ :=
    hd.climb_descends (List.isChain_singleton id) hid
      (n := d.parents.size + 1) (by simp)
  have hchain : d.chainTo id = front ++ [id] := hclimb
  refine ⟨⟨a, ?_, hinput⟩, ?_, ?_⟩
  · rw [hchain, hsplit]
    rfl
  · rw [hchain, hsplit]
    exact hwhole.imp fun p q hparent => (hd.parents q p hparent).1
  · rw [hchain]
    simp

end Discovery

end ModuleGraph
