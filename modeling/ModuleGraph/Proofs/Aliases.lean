import ModuleGraph.Proofs.Assembly.Aliases
import ModuleGraph.Proofs.ProductEdges
import ModuleGraph.Proofs.UniqueIds

/-!
# Other names for the modules of products

A declared product has exactly those other names for modules that some module of the graph asks for,
in a dependency which the traits of its package enable and which means the product.  A product that
is not declared has none, and nothing can mean it.  But the product for interactive use is added
under its name even if a declared product has it, so that the graph may look up a product without
names where names have been asked for.

No two different names are asked for one module of a product in a graph that is loaded.

## Key results

- `Source.BuiltFrom.target?_iff_means`: what is resolved to a product means it
- `Source.BuiltFrom.requestedIn_iff`: the requests of assembly are those of the graph
- `Source.load_aliases`: which other names the products of a graph have
-/

namespace ModuleGraph

open Assembly (replProductName)

/-- A product that is added to a root for interactive use has the name of a declared product. -/
structure Package.Shadows (p : Package) (o : Options) (q : Product) : Prop where
  added : o.replProduct = true
  root : p.isRoot = true
  name : q.name = replProductName p.manifest
  taken : ∃ decl ∈ p.manifest.products, decl.name = q.name

namespace Source

/-- A module of the graph asks for another name of a module of a product. -/
def Renames (s : Source) (g : Graph) (product : ProductId) (module name : String) : Prop :=
  ∃ p ∈ g.packages.toList, ∃ decl ∈ p.manifest.modules.filter (Assembly.hasModule p.isRoot),
    ∃ d ∈ decl.dependencies, d.enabledBy p.enabledTraits = true ∧
      s.Means p d (.product product) ∧
      ∃ n package aliases, d.target = .product n package aliases ∧ (module, name) ∈ aliases.toList

/-- A product that is meant is one that others may use, of a package that this one depends on. -/
theorem Means.vended {s : Source} {p : Package} {d : ModuleDependency} {product : ProductId}
    (h : s.Means p d (.product product)) :
    product.package ∈ p.dependencies ∧ s.catalog.Vends product.package product.name := by
  cases h with
  | qualified name package aliases dep _ _ hloaded hvends => exact ⟨hloaded, hvends⟩
  | unqualified id _ hloaded hvends => exact ⟨hloaded, hvends⟩

/-- A dependency on a module of the package means no product. -/
theorem not_means_of_module {s : Source} {p : Package} {d : ModuleDependency} {name : String}
    {product : ProductId} (htarget : d.target = .module name ∨ d.target = .byName name)
    (hmodule : (p.manifest.module? name).isSome = true) : ¬ s.Means p d (.product product) := by
  intro hmeans
  cases hmeans with
  | qualified name' package aliases dep htarget' =>
    rcases htarget with htarget | htarget <;> cases htarget.symm.trans htarget'
  -- A name that a module has is not looked for among products.
  | unqualified id hun =>
    unfold Manifest.isUnqualified at hun
    rcases htarget with htarget | htarget
    · simp [htarget] at hun
    · rw [htarget] at hun
      rw [Option.isNone_iff_eq_none.1 hun] at hmodule
      exact nomatch hmodule

namespace BuiltFrom

variable {s : Source} {g : Graph} {parts : Parts} (h : s.BuiltFrom g parts)
include h

/-- What a dependency is resolved to is the only product that it means. -/
theorem target?_iff_means {p : Package} (hp : p ∈ g.packages.toList) {decl : ModuleDecl}
    {d : ModuleDependency} {t : Option EdgeTarget}
    (ht : (s.assembly parts.traits parts.discovery).target? p.identity p.manifest decl d = .ok t)
    {product : ProductId} :
    t = some (.product product) ↔ s.Means p d (.product product) := by
  have hdeps : p.dependencies = parts.discovery.edgesOf p.identity := (h.isPackage hp).dependencies
  refine ⟨fun heq => means_of_target hdeps (heq ▸ ht), fun hmeans => ?_⟩
  rcases Assembly.target?_ok ht with ⟨name, htarget, hmodule, -⟩ |
    ⟨name, package, aliases, found, htarget, hfound, rfl⟩ | ⟨hun, found, hfound, rfl⟩
  · exact absurd hmeans (not_means_of_module htarget hmodule)
  · -- The package that is named decides which product is meant.
    cases hmeans with
    | qualified name' package' aliases' dep htarget' hdep hloaded =>
      cases htarget.symm.trans htarget'
      cases found with
      | none =>
        obtain ⟨dep', hdep', hnot, -⟩ := Assembly.resolveQualified_none hfound
        cases hdep.symm.trans hdep'
        exact absurd (hdeps ▸ hloaded) hnot
      | some product =>
        obtain ⟨dep', hdep', -, rfl, -⟩ := Assembly.resolveQualified_some hfound
        cases hdep.symm.trans hdep'
        rfl
    | unqualified id hun =>
      simp [Manifest.isUnqualified, htarget] at hun
  · -- Only one of the packages that are loaded has such a product.
    cases hmeans with
    | qualified name' package' aliases' dep htarget' =>
      simp [Manifest.isUnqualified, htarget'] at hun
    | unqualified id _ hloaded hvends =>
      rw [hdeps] at hloaded
      cases found with
      | none => exact absurd hvends ((Assembly.resolveUnqualified_none hfound).1 id hloaded)
      | some product =>
        obtain ⟨id', -, rfl, -⟩ := Assembly.resolveUnqualified_some hfound
        rw [Assembly.resolveUnqualified_only hfound id hloaded hvends]
        rfl

/-- The entries of discovery that are assembled are the packages of the graph. -/
theorem mem_entries_iff {entry : Identity × Manifest} :
    entry ∈ (s.assembly parts.traits parts.discovery).entries ↔
      ∃ p ∈ g.packages.toList, entry = (p.identity, p.manifest) := by
  have hitems := Assembly.assemble_ok h.assemble_eq
  simp only [h.mem_packages]
  constructor
  · intro hentry
    obtain ⟨p, hp, hpackage⟩ := hitems.exists_of_mem_left hentry
    exact ⟨p, hp, Prod.ext hpackage.identity.symm hpackage.manifest.symm⟩
  · rintro ⟨p, hp, rfl⟩
    obtain ⟨entry, hentry, hpackage⟩ := hitems.exists_of_mem_right hp
    have heq : entry = (p.identity, p.manifest) :=
      Prod.ext hpackage.identity.symm hpackage.manifest.symm
    exact heq ▸ hentry

/-- The requests that are noted when the graph is assembled are those of its modules. -/
theorem requestedIn_iff {product : ProductId} {module name : String} :
    (s.assembly parts.traits parts.discovery).RequestedIn ⟨product, module, name⟩ ↔
      s.Renames g product module name := by
  constructor
  · rintro ⟨entry, hmem, decl, hdecl, d, hd, hen, target, ht, hr⟩
    obtain ⟨p, hp, rfl⟩ := h.mem_entries_iff.1 hmem
    have hpackage := h.isPackage hp
    obtain ⟨n, package, aliases, htarget, rfl, hname⟩ := Assembly.mem_aliasRequests.1 hr
    rw [← hpackage.isRoot] at hdecl
    rw [← hpackage.enabledTraits] at hen
    exact ⟨p, hp, decl, hdecl, d, hd, hen, (h.target?_iff_means hp ht).1 rfl, n, package, aliases,
      htarget, hname⟩
  · rintro ⟨p, hp, decl, hdecl, d, hd, hen, hmeans, n, package, aliases, htarget, hname⟩
    have hpackage := h.isPackage hp
    -- The module has been assembled, so each of its enabled dependencies has been resolved.
    obtain ⟨m, -, hmodule⟩ := (h.modules hp).exists_of_mem_left hdecl
    obtain ⟨l, hl, -⟩ := hmodule.links
    rw [hpackage.enabledTraits] at hen
    obtain ⟨t, ht, -⟩ := Assembly.links_ok hl d hd hen
    have hsome := (h.target?_iff_means hp ht).2 hmeans
    rw [hpackage.isRoot] at hdecl
    refine ⟨_, h.mem_entries_iff.2 ⟨p, hp, rfl⟩, decl, hdecl, d, hd, hen, _, hsome ▸ ht, ?_⟩
    exact Assembly.mem_aliasRequests.2 ⟨n, package, aliases, htarget, rfl, hname⟩

/-- A product for whose modules other names are asked for is declared by its package. -/
theorem exists_declared_of_renames {product : ProductId} {module name : String}
    (hrenames : s.Renames g product module name) :
    ∃ p ∈ g.packages.toList, p.identity = product.package ∧
      ∃ decl ∈ p.manifest.products.filter (Assembly.hasProduct p.isRoot),
        decl.name = product.name := by
  obtain ⟨user, huser, -, -, d, -, -, hmeans, -⟩ := hrenames
  obtain ⟨hloaded, hvends⟩ := hmeans.vended
  obtain ⟨p, hp, hid, decl, hdecl, htest⟩ := h.exists_offers huser hloaded hvends
  refine ⟨p, hp, hid, decl, List.mem_filter.2 ⟨List.mem_of_find?_eq_some hdecl, ?_⟩,
    by simpa using List.find?_some hdecl⟩
  by_cases hkind : decl.kind = .test
  · simp [Assembly.hasProduct, htest hkind]
  · simp [Assembly.hasProduct, hkind]

/-- If other names are asked for modules of a product that is not declared, its name is taken by a
declared product, and it is the product for interactive use. -/
theorem shadows_of_renames {p : Package} (hp : p ∈ g.packages.toList) {q : Product}
    (hq : q ∈ (s.assembly parts.traits parts.discovery).addedProducts (Assembly.staged p))
    {module name : String} (hrenames : s.Renames g q.id module name) : p.Shadows s.options q := by
  obtain ⟨p', hp', hid, decl, hdecl, hname⟩ := h.exists_declared_of_renames hrenames
  obtain ⟨_, _, _, -, hmade⟩ := Assembly.exists_of_mem_addedProducts hq
  have hidentity : p'.identity = p.identity := by rw [hid, hmade]; rfl
  have hsame : p' = p := KeyedSet.key_inj hp' hp hidentity
  subst hsame
  have htaken : ∃ decl ∈ p'.manifest.products, decl.name = q.name :=
    ⟨decl, (List.mem_filter.1 hdecl).1, hname⟩
  unfold Assembly.addedProducts at hq
  split at hq
  · next hroot =>
    rcases List.mem_append.1 hq with hq | hq
    · -- Test products are added under names that no declared product has.
      have hfree := (Assembly.mem_names_addedTestProducts.1 (List.mem_map_of_mem hq)).1
      exact absurd (List.mem_map.2 htaken) hfree
    · obtain ⟨hadded, -, hrepl⟩ :=
        Assembly.mem_names_addedReplProducts.1 (List.mem_map_of_mem hq)
      exact ⟨hadded, hroot, hrepl, htaken⟩
  · exact nomatch hq

end BuiltFrom

/-- The declared products of a loaded graph have exactly those other names for modules that modules
of the graph ask for, and products that are not declared have none.  The graph looks up a product
with exactly the names that are asked for, unless it is the product for interactive use under the
name of a declared product.  For no module of a product, two different names are asked for. -/
theorem load_aliases {s : Source} {g : Graph} (h : s.load.result = .ok g) :
    (∀ p ∈ g.packages.toList, ∀ q ∈ p.products, ∀ module name,
        (module, name) ∈ q.aliases.toList ↔
          q.synthesized = false ∧ s.Renames g q.id module name) ∧
      (∀ q ∈ g.allProducts.toList,
        (∀ module name, (module, name) ∈ q.aliases.toList ↔ s.Renames g q.id module name) ∨
          q.synthesized = true ∧ ∃ p ∈ g.packages.toList, q ∈ p.products ∧
            p.Shadows s.options q) ∧
      ∀ product module name name', s.Renames g product module name →
        s.Renames g product module name' → name = name' := by
  obtain ⟨parts, hbuilt⟩ := exists_builtFrom h
  obtain ⟨table, htable, htakes⟩ := Assembly.assemble_aliases hbuilt.assemble_eq
  have hhas {product : ProductId} {module name : String} :
      table.Has ⟨product, module, name⟩ ↔ s.Renames g product module name :=
    (htable _).trans hbuilt.requestedIn_iff
  have hproducts : ∀ p ∈ g.packages.toList, ∀ q ∈ p.products, ∀ module name,
      (module, name) ∈ q.aliases.toList ↔
        q.synthesized = false ∧ s.Renames g q.id module name := by
    intro p hp q hq module name
    have htake := htakes p (hbuilt.mem_packages.1 hp)
    cases hsyn : q.synthesized with
    | false =>
      rw [(Assembly.AliasTable.aliasesFor_ok (htake.taken q hq hsyn)).1, hhas]
      simp
    | true =>
      rw [(htake.added q hq hsyn).2]
      simp [KeyedSet.empty]
  -- Only a product that is not declared may lack names that are asked for.
  refine ⟨hproducts, fun q hq => ?_, fun product module name name' hname hname' => ?_⟩
  · obtain ⟨p, hp, hqp⟩ := hbuilt.exists_package_of_product hq
    by_cases hasked : ∃ module name, q.synthesized = true ∧ s.Renames g q.id module name
    · obtain ⟨module, name, hsyn, hrenames⟩ := hasked
      have hadded := ((htakes p (hbuilt.mem_packages.1 hp)).added q hqp hsyn).1
      exact .inr ⟨hsyn, p, hp, hqp, hbuilt.shadows_of_renames hp hadded hrenames⟩
    · refine .inl fun module name => (hproducts p hp q hqp module name).trans
        (and_iff_right_of_imp fun hrenames => ?_)
      exact Bool.eq_false_iff.2 fun hsyn => hasked ⟨module, name, hsyn, hrenames⟩
  · -- The declared product has taken its names, so they agree.
    obtain ⟨p, hp, hid, decl, hdecl, hdeclname⟩ := hbuilt.exists_declared_of_renames hname
    have htake := htakes p (hbuilt.mem_packages.1 hp)
    obtain ⟨q, hq, hsyn, hqid⟩ := htake.declared decl hdecl
    have hproduct : q.id = product := by rw [hqid, hid, hdeclname]
    have hagree := (Assembly.AliasTable.aliasesFor_ok (htake.taken q hq hsyn)).2
    rw [hproduct] at hagree
    exact hagree module name name' (hhas.2 hname) (hhas.2 hname')

end Source

/-- Two roots, of which the first asks for another name of a module of the second.  The product that
it uses has the name of the product for interactive use. -/
def renamedRepl : Source :=
  { Source.ofManifests
      [{ Manifest.bare (.root ⟨"app"⟩) "App" with
          modules := [⟨"App", .library, none, [⟨.product "Kit__REPL" (some "kit")
            (KeyedSet.ofList [("Kit", "AppKit")]), none⟩]⟩]
          dependencies := [.onRegistry "kit" none] },
        { Manifest.bare (.root ⟨"kit"⟩) "Kit" with
          modules := [⟨"Kit", .library, none, []⟩]
          products := [⟨"Kit__REPL", .library, ["Kit"]⟩] }] with
    options := { Options.standard with replProduct := true } }

/-- The declared product has the name that is asked for; the product that the graph looks up under
the same id has none. -/
theorem load_aliases_renamedRepl :
    ∃ g p q q', renamedRepl.load.result = .ok g ∧ p ∈ g.packages.toList ∧ q ∈ p.products ∧
      renamedRepl.Renames g q.id "Kit" "AppKit" ∧ ("Kit", "AppKit") ∈ q.aliases.toList ∧
      q' ∈ g.allProducts.toList ∧ q'.id = q.id ∧ ("Kit", "AppKit") ∉ q'.aliases.toList ∧
      ∃ p ∈ g.packages.toList, q' ∈ p.products ∧ p.Shadows renamedRepl.options q' := by
  have hloads : (renamedRepl.load.result.toOption.any fun g => decide (
      ∃ p ∈ g.packages.toList, ∃ q ∈ p.products, ("Kit", "AppKit") ∈ q.aliases.toList ∧
        ∃ q' ∈ g.allProducts.toList, q'.id = q.id ∧
          ("Kit", "AppKit") ∉ q'.aliases.toList)) = true := by
    decide +kernel
  obtain ⟨g, h, hg⟩ := Except.exists_ok_of_any hloads
  obtain ⟨p, hp, q, hq, hname, q', hq', hid, hnone⟩ := of_decide_eq_true hg
  obtain ⟨hproducts, hall, -⟩ := Source.load_aliases h
  have hrenames := ((hproducts p hp q hq "Kit" "AppKit").1 hname).2
  refine ⟨g, p, q, q', h, hp, hq, hrenames, hname, hq', hid, hnone, ?_⟩
  rcases hall q' hq' with hexact | ⟨-, hshadows⟩
  · exact absurd ((hexact "Kit" "AppKit").2 (hid ▸ hrenames)) hnone
  · exact hshadows

end ModuleGraph
