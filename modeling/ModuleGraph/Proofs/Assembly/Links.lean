import ModuleGraph.Graph.Assembly.Modules
import ModuleGraph.Proofs.Catalog
import ModuleGraph.Proofs.Outcome

/-!
# What references are resolved to

A product reference that is resolved means a product that a package among the loaded ones has.  One
that is passed over may come from a declared package that is not among them.  Every enabled
dependency of a module that is resolved leaves an edge, or the prebuilt library that takes its
place.

## Key results

- `resolveQualified_some`, `resolveUnqualified_some`: what a resolved reference means
- `resolveQualified_none`, `resolveUnqualified_none`: when a reference is passed over
- `resolveUnqualified_only`: no other loaded package has a product that is meant without a package
- `links_ok`: every enabled dependency of a module is recorded or passed over
- `links_traced`: every edge of a module comes from an enabled dependency
- `links_founded`: so does every prebuilt library, and it replaces what the dependency means
-/

/-- A dependency of a module asks for a product, either of the package that it names or without
naming one.  By a name alone it does so where no module of its own package has the name. -/
inductive ModuleGraph.Manifest.AsksFor (m : Manifest) (d : ModuleDependency) (name : String) :
    Option String → Prop
  | product (package : Option String) (aliases : SortedMap String String)
      (htarget : d.target = .product name package aliases) : AsksFor m d name package
  | byName (htarget : d.target = .byName name) (hmodule : m.module? name = none) :
      AsksFor m d name none

namespace ModuleGraph.Assembly

/-! ### Products -/

/-- A product is found in a package exactly if others may use it. -/
theorem productIn?_eq_some {a : Assembly} {id : Identity} {name : String} {product : ProductId} :
    a.productIn? id name = some product ↔ product = ⟨id, name⟩ ∧ a.catalog.Vends id name := by
  unfold productIn? Catalog.Vends
  simp only [bind, Option.bind_eq_some_iff]
  constructor
  · intro ⟨m, hm, declared, hdeclared, hif⟩
    -- A test product is found in roots only.
    split at hif
    · exact nomatch hif
    · next hkind =>
      refine ⟨(Option.some.inj hif).symm, m, declared, hm, hdeclared, fun htest => ?_⟩
      simpa [htest] using hkind
  · rintro ⟨rfl, m, declared, hm, hdeclared, hroot⟩
    refine ⟨m, hm, declared, hdeclared, if_neg fun hhidden => ?_⟩
    obtain ⟨htest, hno⟩ := Bool.and_eq_true_iff.1 hhidden
    rw [hroot (beq_iff_eq.1 htest)] at hno
    exact nomatch hno

/-- No product is found in a package that has none that others may use. -/
theorem productIn?_eq_none {a : Assembly} {id : Identity} {name : String} :
    a.productIn? id name = none ↔ ¬ a.catalog.Vends id name := by
  rw [Option.eq_none_iff_forall_ne_some]
  exact ⟨fun h hvends => h _ (productIn?_eq_some.2 ⟨rfl, hvends⟩),
    fun h product hfound => h (productIn?_eq_some.1 hfound).2⟩

/-- A package vends what is found in it. -/
theorem isSome_productIn? {a : Assembly} {id : Identity} {name : String} :
    (a.productIn? id name).isSome = true ↔ a.catalog.Vends id name := by
  rw [Option.isSome_iff_exists]
  simp [productIn?_eq_some]

/-- A package with a manifest could only have a product that it declares. -/
theorem mayVend_of_manifest {a : Assembly} {r : Request} {id : Identity} {m : Manifest}
    (hm : a.catalog.manifest? id = some m) (h : a.mayVend r id = true) :
    (m.product? r.product).isSome = true := by
  unfold mayVend at h
  rw [hm] at h
  exact h

/-- A package without a manifest could have a product if it was required, or if the module that asks
for the product is not required itself. -/
theorem mayVend_of_absent {a : Assembly} {r : Request} {id : Identity}
    (hm : a.catalog.manifest? id = none) (h : a.mayVend r id = true) :
    id ∈ a.discovery.unloadedOf r.package ∨
      ∀ needed ∈ r.manifest.requiredModules (a.discovery.filterOf r.package)
        (a.traits.of r.package), needed.name ≠ r.module.name := by
  unfold mayVend at h
  rw [hm] at h
  rcases Bool.or_eq_true_iff.1 h with hrequired | houtside
  · exact .inl (List.contains_iff_mem.1 hrequired)
  · exact .inr (by simpa using houtside)

/-! ### References -/

section
variable {a : Assembly} {r : Request} {qualifier : String}

/-- A reference that names a package means the product of the first declared dependency of that
name. -/
theorem resolveQualified_some {product : ProductId}
    (h : a.resolveQualified r qualifier = .ok (some product)) :
    ∃ dep, r.manifest.dependencies.find?
        (fun dep => dep.isMeantBy (a.mirrors.identify dep.origin) qualifier) = some dep ∧
      a.mirrors.identify dep.origin ∈ a.discovery.edgesOf r.package ∧
      product = ⟨a.mirrors.identify dep.origin, r.product⟩ ∧
      a.catalog.Vends (a.mirrors.identify dep.origin) r.product := by
  unfold resolveQualified at h
  split at h
  · split at h <;> exact nomatch h
  · next id hqualified =>
    obtain ⟨dep, hfind, rfl⟩ := Option.map_eq_some_iff.1 hqualified
    split at h
    · next hloaded =>
      split at h
      · next found hfound =>
        cases h
        exact ⟨dep, hfind, by simpa using hloaded, productIn?_eq_some.1 hfound⟩
      · exact nomatch h
    · split at h <;> exact nomatch h

/-- A reference that names a package is passed over only if the package is not loaded but may have
the product. -/
theorem resolveQualified_none (h : a.resolveQualified r qualifier = .ok none) :
    ∃ dep, r.manifest.dependencies.find?
        (fun dep => dep.isMeantBy (a.mirrors.identify dep.origin) qualifier) = some dep ∧
      a.mirrors.identify dep.origin ∉ a.discovery.edgesOf r.package ∧
      a.mayVend r (a.mirrors.identify dep.origin) = true := by
  unfold resolveQualified at h
  split at h
  · split at h <;> exact nomatch h
  · next id hqualified =>
    obtain ⟨dep, hfind, rfl⟩ := Option.map_eq_some_iff.1 hqualified
    split at h
    · split at h <;> exact nomatch h
    · next hloaded =>
      -- The package is declared, but not loaded; otherwise the product is found or missing.
      split at h
      · next hmay => exact ⟨dep, hfind, by simpa using hloaded, hmay⟩
      · exact nomatch h

/-- A reference without a package means the product of a loaded package. -/
theorem resolveUnqualified_some {product : ProductId}
    (h : a.resolveUnqualified r = .ok (some product)) :
    ∃ id ∈ a.discovery.edgesOf r.package, product = ⟨id, r.product⟩ ∧
      a.catalog.Vends id r.product := by
  unfold resolveUnqualified at h
  dsimp only at h
  split at h
  · next hfound =>
    cases h
    -- Exactly one of the loaded dependencies has the product.
    have hmem : product ∈ (a.discovery.edgesOf r.package).filterMap
        fun id => a.productIn? id r.product := by
      rw [hfound]
      exact List.mem_singleton_self product
    obtain ⟨id, hid, hin⟩ := List.mem_filterMap.1 hmem
    exact ⟨id, hid, productIn?_eq_some.1 hin⟩
  · split at h
    · exact nomatch h
    · split at h <;> exact nomatch h
  · exact nomatch h

/-- No other loaded package has a product that a reference without a package means. -/
theorem resolveUnqualified_only {product : ProductId}
    (h : a.resolveUnqualified r = .ok (some product)) :
    ∀ id ∈ a.discovery.edgesOf r.package, a.catalog.Vends id r.product → id = product.package := by
  unfold resolveUnqualified at h
  dsimp only at h
  intro id hid hvends
  split at h
  · next found hfound =>
    have hsame : found = product := Option.some.inj (Except.ok.inj h)
    have hin : a.productIn? id r.product = some ⟨id, r.product⟩ :=
      productIn?_eq_some.2 ⟨rfl, hvends⟩
    -- The package would be found beside the one that was.
    have hmem : ⟨id, r.product⟩ ∈ (a.discovery.edgesOf r.package).filterMap
        fun id => a.productIn? id r.product := List.mem_filterMap.2 ⟨id, hid, hin⟩
    rw [hfound, List.mem_singleton] at hmem
    exact hsame ▸ congrArg ProductId.package hmem
  · split at h
    · exact nomatch h
    · split at h <;> exact nomatch h
  · exact nomatch h

/-- A reference without a package is passed over if no loaded package and not the package itself
has the product, but a declared package that is not loaded may have it. -/
theorem resolveUnqualified_none (h : a.resolveUnqualified r = .ok none) :
    (∀ id ∈ a.discovery.edgesOf r.package, ¬ a.catalog.Vends id r.product) ∧
      r.manifest.product? r.product = none ∧
      ∃ dep ∈ r.manifest.dependencies,
        a.mirrors.identify dep.origin ∉ a.discovery.edgesOf r.package ∧
        a.mayVend r (a.mirrors.identify dep.origin) = true := by
  unfold resolveUnqualified at h
  dsimp only at h
  split at h
  · exact nomatch h
  · next hnone =>
    -- No loaded dependency vends it.
    split at h
    · exact nomatch h
    · next hown =>
      -- The package has no product of its own of the name.
      split at h
      · next hany =>
        -- One of the dependencies that are not loaded may vend it, else this is an error.
        refine ⟨fun id hid => ?_, by simpa using hown, ?_⟩
        · exact productIn?_eq_none.1 (List.filterMap_eq_nil_iff.1 hnone id hid)
        · obtain ⟨id, hid, hmay⟩ := List.any_eq_true.1 hany
          obtain ⟨hdeclared, hloaded⟩ := List.mem_filter.1 hid
          obtain ⟨dep, hdep, rfl⟩ := List.mem_map.1 hdeclared
          exact ⟨dep, hdep, by simpa using hloaded, hmay⟩
      · exact nomatch h
  · exact nomatch h

end

/-- A reference means a module of the package, a product of the package that it names, or a product
of any package that is loaded. -/
theorem target?_ok {a : Assembly} {id : Identity} {m : Manifest} {decl : ModuleDecl}
    {d : ModuleDependency} {t : Option EdgeTarget} (h : a.target? id m decl d = .ok t) :
    (∃ name, (d.target = .module name ∨ d.target = .byName name) ∧
      (m.module? name).isSome = true ∧ t = some (.module ⟨id, name⟩)) ∨
    (∃ name package aliases found, d.target = .product name (some package) aliases ∧
      a.resolveQualified ⟨id, m, decl, name⟩ package = .ok found ∧ t = found.map .product) ∨
    m.isUnqualified d = true ∧
      ∃ found, a.resolveUnqualified ⟨id, m, decl, d.name⟩ = .ok found ∧
        t = found.map .product := by
  unfold target? resolveProduct at h
  unfold Manifest.isUnqualified ModuleDependency.name
  split at h
  · next name htarget =>
    -- A module reference: a name that the package does not have is an error.
    split at h
    · exact nomatch h
    · next hmodule =>
      cases h
      exact .inl ⟨name, .inl htarget, by simpa [Option.isSome_iff_ne_none] using hmodule, rfl⟩
  · next name htarget =>
    split at h
    · next hmodule =>
      -- The name of a module of the package comes before that of a product.
      cases h
      exact .inl ⟨name, .inr htarget, hmodule, rfl⟩
    · next hmodule =>
      -- The package has no such module, so a product of any package is looked for.
      obtain ⟨found, hfound, rfl⟩ := Except.map_eq_ok.1 h
      rw [htarget]
      exact .inr (.inr ⟨by simpa using hmodule, found, hfound, rfl⟩)
  · next name qualifier aliases htarget =>
    -- A product reference: its qualifier decides where the product is looked for.
    obtain ⟨found, hfound, rfl⟩ := Except.map_eq_ok.1 h
    cases qualifier with
    | some package => exact .inr (.inl ⟨name, package, aliases, found, htarget, hfound, rfl⟩)
    | none =>
      rw [htarget]
      exact .inr (.inr ⟨rfl, found, hfound, rfl⟩)

/-- A dependency that asks for a product is resolved as a reference to it. -/
theorem target?_of_asksFor {a : Assembly} {id : Identity} {m : Manifest} {decl : ModuleDecl}
    {d : ModuleDependency} {name : String} {package : Option String}
    (h : m.AsksFor d name package) :
    a.target? id m decl d =
      (a.resolveProduct ⟨id, m, decl, name⟩ package).map (·.map .product) := by
  unfold target?
  cases h with
  | product package aliases htarget => rw [htarget]
  | byName htarget hmodule => simp [htarget, hmodule]

/-- A dependency that is resolved to a product asks for it. -/
theorem exists_asksFor {a : Assembly} {id : Identity} {m : Manifest} {decl : ModuleDecl}
    {d : ModuleDependency} {product : ProductId}
    (h : a.target? id m decl d = .ok (some (.product product))) :
    ∃ name package, m.AsksFor d name package ∧
      a.resolveProduct ⟨id, m, decl, name⟩ package = .ok (some product) := by
  -- Once it is known what the dependency asks for, `h` says how that was resolved.
  have hresolved {name : String} {package : Option String} (hasks : m.AsksFor d name package) :
      a.resolveProduct ⟨id, m, decl, name⟩ package = .ok (some product) := by
    rw [target?_of_asksFor hasks] at h
    obtain ⟨found, hfound, heq⟩ := Except.map_eq_ok.1 h
    obtain ⟨product', rfl, hsame⟩ := Option.map_eq_some_iff.1 heq.symm
    exact EdgeTarget.product.inj hsame ▸ hfound
  cases htarget : d.target with
  -- A module reference gives a module.
  | module name =>
    simp only [target?, htarget] at h
    split at h <;> cases h
  | byName name =>
    cases hmodule : m.module? name with
    | none =>
      have hasks : m.AsksFor d name none := .byName htarget hmodule
      exact ⟨name, none, hasks, hresolved hasks⟩
    -- So does a name that a module has.
    | some decl' => simp [target?, htarget, hmodule] at h
  | product name package aliases =>
    have hasks : m.AsksFor d name package := .product package aliases htarget
    exact ⟨name, package, hasks, hresolved hasks⟩

/-! ### Links -/

/-- A dependency is recorded: an edge points at its target, or a prebuilt library takes the place
of the edge. -/
def Records (a : Assembly) (kind : ModuleKind) (l : Links) (d : ModuleDependency)
    (target : EdgeTarget) : Prop :=
  match a.substitute? kind target with
  | some library => ∃ recorded ∈ l.prebuilts, library.same recorded = true
  | none => ⟨target, d.conditions⟩ ∈ l.edges

/-- A dependency is recorded, or passed over because nothing in the graph is meant. -/
def Links.Settles (a : Assembly) (id : Identity) (m : Manifest) (decl : ModuleDecl) (l : Links)
    (d : ModuleDependency) : Prop :=
  ∃ t, a.target? id m decl d = .ok t ∧ ∀ target, t = some target → a.Records decl.kind l d target

/-- Every edge comes from an enabled dependency of the module, and points at what that means. -/
def Links.Traced (a : Assembly) (id : Identity) (m : Manifest) (decl : ModuleDecl) (traits : Names)
    (l : Links) : Prop :=
  ∀ e ∈ l.edges, ∃ d ∈ decl.dependencies, d.enabledBy traits = true ∧
    a.target? id m decl d = .ok (some e.target) ∧ e.conditions = d.conditions

/-- Only a product that a test or macro uses is replaced by a prebuilt library. -/
theorem substitute?_eq_some {a : Assembly} {kind : ModuleKind} {target : EdgeTarget}
    {library : Prebuilt} (h : a.substitute? kind target = some library) :
    (kind = .macroModule ∨ kind = .test) ∧ ∃ product, target = .product product ∧
      a.prebuilts.find? product.package product.name = some library := by
  unfold substitute? at h
  split at h
  · next product =>
    split at h
    · next hkind =>
      simp only [Bool.or_eq_true, beq_iff_eq] at hkind
      exact ⟨hkind, product, rfl, h⟩
    · exact nomatch h
  · exact nomatch h

/-- A description of a library is of the same library as itself. -/
theorem same_refl (library : Prebuilt) : library.same library = true := by
  simp [Prebuilt.same]

/-- Links that others are added to. -/
structure Links.Within (l l' : Links) : Prop where
  edges : ∀ e ∈ l.edges, e ∈ l'.edges
  prebuilts : ∀ library ∈ l.prebuilts, library ∈ l'.prebuilts

/-- What is recorded stays so when links are added. -/
theorem Records.mono {a : Assembly} {kind : ModuleKind} {l l' : Links} {d : ModuleDependency}
    {target : EdgeTarget} (h : a.Records kind l d target) (hwithin : l.Within l') :
    a.Records kind l' d target := by
  unfold Records at h ⊢
  split at h
  · obtain ⟨recorded, hmem, hsame⟩ := h
    exact ⟨recorded, hwithin.prebuilts recorded hmem, hsame⟩
  · exact hwithin.edges _ h

/-- What becomes of the links of a module when one more dependency is resolved. -/
inductive Linked (a : Assembly) (id : Identity) (m : Manifest) (decl : ModuleDecl) (traits : Names)
    (d : ModuleDependency) (l l' : Links) : Prop
  /-- The traits do not enable the dependency. -/
  | disabled (henabled : d.enabledBy traits = false) (hedges : l'.edges = l.edges)
      (hprebuilts : l'.prebuilts = l.prebuilts)
  /-- Nothing in the graph is meant. -/
  | passed (henabled : d.enabledBy traits = true) (ht : a.target? id m decl d = .ok none)
      (hedges : l'.edges = l.edges) (hprebuilts : l'.prebuilts = l.prebuilts)
  /-- An edge is added. -/
  | edge (target : EdgeTarget) (henabled : d.enabledBy traits = true)
      (ht : a.target? id m decl d = .ok (some target))
      (hsub : a.substitute? decl.kind target = none)
      (hedges : l'.edges = l.edges ++ [⟨target, d.conditions⟩])
      (hprebuilts : l'.prebuilts = l.prebuilts)
  /-- A prebuilt library takes the place of the edge. -/
  | library (target : EdgeTarget) (library : Prebuilt) (henabled : d.enabledBy traits = true)
      (ht : a.target? id m decl d = .ok (some target))
      (hsub : a.substitute? decl.kind target = some library) (hedges : l'.edges = l.edges)
      (hprebuilts : l'.prebuilts =
        if l.prebuilts.any library.same then l.prebuilts else l.prebuilts ++ [library])

section
variable {a : Assembly} {id : Identity} {m : Manifest} {decl : ModuleDecl} {traits : Names}

/-- A dependency that is resolved adds an edge or a library, or nothing at all. -/
theorem linked_link {l l' : Links} {d : ModuleDependency}
    (h : a.link id m decl traits l d = .ok l') : Linked a id m decl traits d l l' := by
  unfold link at h
  -- The stages of `link` in turn: is it enabled, does it mean anything, does a prebuilt replace
  -- that.
  cases hen : d.enabledBy traits with
  | false =>
    rw [hen] at h
    cases h
    exact .disabled hen rfl rfl
  | true =>
    rw [hen] at h
    obtain ⟨t, ht, h⟩ := Except.bind_eq_ok.1 h
    cases t with
    | none =>
      cases h
      exact .passed hen ht rfl rfl
    | some target =>
      dsimp only at h
      cases hsub : a.substitute? decl.kind target with
      | none =>
        rw [hsub] at h
        cases h
        exact .edge target hen ht hsub rfl rfl
      | some library =>
        rw [hsub] at h
        cases h
        exact .library target library hen ht hsub rfl rfl

/-- Resolving a dependency takes no links away, and settles the dependency if it is enabled. -/
theorem link_ok {l l' : Links} {d : ModuleDependency}
    (h : a.link id m decl traits l d = .ok l') :
    l.Within l' ∧ (d.enabledBy traits = true → l'.Settles a id m decl d) := by
  have hsettles {target : EdgeTarget} (ht : a.target? id m decl d = .ok (some target))
      (hrecords : a.Records decl.kind l' d target) : l'.Settles a id m decl d :=
    ⟨some target, ht, fun _ heq => Option.some.inj heq ▸ hrecords⟩
  cases linked_link h with
  | disabled hen hedges hprebuilts =>
    refine ⟨⟨fun _ he => hedges ▸ he, fun _ hp => hprebuilts ▸ hp⟩, fun hen' => ?_⟩
    rw [hen] at hen'
    exact nomatch hen'
  | passed _ ht hedges hprebuilts =>
    exact ⟨⟨fun _ he => hedges ▸ he, fun _ hp => hprebuilts ▸ hp⟩,
      fun _ => ⟨none, ht, fun _ hnone => nomatch hnone⟩⟩
  | edge target _ ht hsub hedges hprebuilts =>
    have hrecords : a.Records decl.kind l' d target := by simp [Records, hsub, hedges]
    exact ⟨⟨fun _ he => by simp [hedges, he], fun _ hp => hprebuilts ▸ hp⟩,
      fun _ => hsettles ht hrecords⟩
  | library target library _ ht hsub hedges hprebuilts =>
    -- The library is there already, or it is recorded now.
    have hrecords : a.Records decl.kind l' d target := by
      rw [Records, hsub, hprebuilts]
      dsimp only
      split
      · next hany => exact List.any_eq_true.1 hany
      · exact ⟨library, by simp, same_refl library⟩
    refine ⟨⟨fun _ he => hedges ▸ he, fun _ hp => ?_⟩, fun _ => hsettles ht hrecords⟩
    rw [hprebuilts]
    split
    · exact hp
    · exact List.mem_append_left _ hp

/-- Links that others are added to twice. -/
theorem Links.Within.trans {l₁ l₂ l₃ : Links} (h : l₁.Within l₂) (h' : l₂.Within l₃) :
    l₁.Within l₃ :=
  ⟨fun e he => h'.edges e (h.edges e he), fun p hp => h'.prebuilts p (h.prebuilts p hp)⟩

/-- A dependency stays settled when links are added. -/
theorem Links.Settles.mono {l l' : Links} {d : ModuleDependency} (h : l.Settles a id m decl d)
    (hwithin : l.Within l') : l'.Settles a id m decl d := by
  obtain ⟨t, ht, hrecords⟩ := h
  exact ⟨t, ht, fun target heq => (hrecords target heq).mono hwithin⟩

/-- Resolving dependencies one by one settles all that are enabled. -/
theorem foldlM_link_ok {deps : List ModuleDependency} {l l' : Links}
    (h : deps.foldlM (a.link id m decl traits) l = .ok l') :
    l.Within l' ∧ ∀ d ∈ deps, d.enabledBy traits = true → l'.Settles a id m decl d := by
  -- What is settled stays so when links are added.
  exact Except.foldlM_forall Links.Within
    (fun (d : ModuleDependency) l => d.enabledBy traits = true → l.Settles a id m decl d)
    (fun _ => ⟨fun _ he => he, fun _ hp => hp⟩) (fun _ _ _ hwithin => hwithin.trans)
    (fun _ _ _ hsettles hwithin hen => (hsettles hen).mono hwithin)
    (fun _ _ _ _ hlink => link_ok hlink) h

/-- Every enabled dependency of a module is recorded or passed over. -/
theorem links_ok {l : Links} (h : a.links id m decl traits = .ok l) :
    ∀ d ∈ decl.dependencies, d.enabledBy traits = true → l.Settles a id m decl d :=
  (foldlM_link_ok h).2

/-- Resolving one more dependency of the module adds an edge to what it means, or none. -/
theorem Links.Traced.link {l l' : Links} (hl : l.Traced a id m decl traits) {d : ModuleDependency}
    (hd : d ∈ decl.dependencies) (h : a.link id m decl traits l d = .ok l') :
    l'.Traced a id m decl traits := by
  cases linked_link h with
  | disabled _ hedges => exact fun e he => hl e (hedges ▸ he)
  | passed _ _ hedges => exact fun e he => hl e (hedges ▸ he)
  | edge target hen ht _ hedges =>
    intro e he
    rw [hedges] at he
    cases List.mem_append.1 he with
    | inl he => exact hl e he
    | inr he =>
      cases List.mem_singleton.1 he
      exact ⟨d, hd, hen, ht, rfl⟩
  -- A library takes the place of an edge.
  | library _ _ _ _ _ hedges => exact fun e he => hl e (hedges ▸ he)

/-- Every edge of a module comes from one of its enabled dependencies. -/
theorem links_traced {l : Links} (h : a.links id m decl traits = .ok l) :
    l.Traced a id m decl traits := by
  have hstart : Links.Traced a id m decl traits ⟨[], [], []⟩ :=
    fun e he => absurd he List.not_mem_nil
  exact Except.foldlM_inv (Links.Traced a id m decl traits)
    (fun d hd l l' hl hlink => hl.link hd hlink) hstart h

/-- Every edge comes from an enabled dependency that no prebuilt library replaces, and every
prebuilt library replaces what an enabled dependency means. -/
structure Links.Founded (a : Assembly) (id : Identity) (m : Manifest) (decl : ModuleDecl)
    (traits : Names) (l : Links) : Prop where
  edges : ∀ e ∈ l.edges, ∃ d ∈ decl.dependencies, d.enabledBy traits = true ∧
    a.target? id m decl d = .ok (some e.target) ∧ a.substitute? decl.kind e.target = none
  prebuilts : ∀ library ∈ l.prebuilts, ∃ d ∈ decl.dependencies, d.enabledBy traits = true ∧
    ∃ target, a.target? id m decl d = .ok (some target) ∧
      a.substitute? decl.kind target = some library

/-- Resolving one more dependency of the module adds an edge or a library for it, or nothing. -/
theorem Links.Founded.link {l l' : Links} (hl : l.Founded a id m decl traits)
    {d : ModuleDependency} (hd : d ∈ decl.dependencies)
    (h : a.link id m decl traits l d = .ok l') : l'.Founded a id m decl traits := by
  cases linked_link h with
  -- Nothing is added for a dependency that is disabled or passed over.
  | disabled _ hedges hprebuilts =>
    exact ⟨fun e he => hl.edges e (hedges ▸ he), fun p hp => hl.prebuilts p (hprebuilts ▸ hp)⟩
  | passed _ _ hedges hprebuilts =>
    exact ⟨fun e he => hl.edges e (hedges ▸ he), fun p hp => hl.prebuilts p (hprebuilts ▸ hp)⟩
  | edge target hen ht hsub hedges hprebuilts =>
    refine ⟨fun e he => ?_, fun p hp => hl.prebuilts p (hprebuilts ▸ hp)⟩
    rw [hedges] at he
    cases List.mem_append.1 he with
    | inl he => exact hl.edges e he
    | inr he =>
      -- The new edge is founded on `d`.
      cases List.mem_singleton.1 he
      exact ⟨d, hd, hen, ht, hsub⟩
  | library target library hen ht hsub hedges hprebuilts =>
    refine ⟨fun e he => hl.edges e (hedges ▸ he), fun p hp => ?_⟩
    rw [hprebuilts] at hp
    -- A library is added once, so it may stand there for an earlier dependency.
    split at hp
    · exact hl.prebuilts p hp
    · cases List.mem_append.1 hp with
      | inl hp => exact hl.prebuilts p hp
      | inr hp =>
        cases List.mem_singleton.1 hp
        exact ⟨d, hd, hen, target, ht, hsub⟩

/-- Every edge and every prebuilt library of a module comes from one of its enabled dependencies. -/
theorem links_founded {l : Links} (h : a.links id m decl traits = .ok l) :
    l.Founded a id m decl traits := by
  have hstart : Links.Founded a id m decl traits ⟨[], [], []⟩ :=
    ⟨fun e he => absurd he List.not_mem_nil, fun p hp => absurd hp List.not_mem_nil⟩
  exact Except.foldlM_inv (Links.Founded a id m decl traits)
    (fun d hd l l' hl hlink => hl.link hd hlink) hstart h

end

end ModuleGraph.Assembly
