import ModuleGraph.Proofs.Assembly.Links
import ModuleGraph.Proofs.Assembly.Packages

/-!
# Why assembly fails

Assembly fails for a reference that cannot be resolved, for a module that is asked for and not
declared, and for other names of modules that do not agree.  Reports about artifacts, files and
members of products are no failures.

## Key results

- `Assembly.meets_resolveProduct`: the errors for a product that is asked for
- `Assembly.meets_assemble`: the errors of assembly as a whole
-/

namespace ModuleGraph.Assembly

/-- A module that is assembled asks for a product, by a reference that the traits of its package
enable. -/
structure Asks (a : Assembly) (r : Request) (qualifier : Option String) : Prop where
  entry : (r.package, r.manifest) ∈ a.entries
  module : r.module ∈ r.manifest.modules.filter (hasModule (a.catalog.isRoot r.package))
  reference : ∃ d ∈ r.module.dependencies, d.enabledBy (a.traits.of r.package) = true ∧
    r.manifest.AsksFor d r.product qualifier

/-- The dependency that a qualifier means is searched; without a qualifier, there is not one package
that is searched. -/
def searched? (a : Assembly) (r : Request) (qualifier : Option String) : Option Identity :=
  qualifier.bind (a.qualified? r.manifest)

/-- The errors for a product that is asked for. -/
inductive Unresolved (a : Assembly) (r : Request) : Option String → PackageError → Prop
  /-- The package itself declares the product. -/
  | own {qualifier : Option String} (hown : (r.manifest.product? r.product).isSome = true) :
      Unresolved a r qualifier (ownProduct r)
  /-- The package that is searched does not have the product.  Without a qualifier, no package has
  it that this one depends on, and not the package itself. -/
  | notFound {qualifier : Option String}
      (hsearched : ∀ id, a.searched? r qualifier = some id → ¬ a.catalog.Vends id r.product)
      (hunqualified : qualifier = none → r.manifest.product? r.product = none) :
      Unresolved a r qualifier (a.notFound r qualifier (a.searched? r qualifier))
  /-- Several packages have the product. -/
  | ambiguous (candidates : List String) :
      Unresolved a r none (.ambiguousProduct r.product r.module.name candidates)

/-- The errors of assembly. -/
inductive Fails (a : Assembly) : PackageError → Prop
  /-- A module asks for a product that it cannot have. -/
  | unresolved {r : Request} {qualifier : Option String} {e : PackageError}
      (hasks : a.Asks r qualifier) (h : a.Unresolved r qualifier e) : Fails a e
  /-- A module asks for a module that its package does not have. -/
  | unknownModule {id : Identity} {m : Manifest} (decl : ModuleDecl) (name : String)
      (hentry : (id, m) ∈ a.entries) (hmodule : m.module? name = none) :
      Fails a (unknownModule m decl name)
  /-- A module of a product is given several names. -/
  | multipleAliases (module product package : String) (names : List String) :
      Fails a (.multipleAliases module product package names)

variable {a : Assembly}

/-! ### Modules -/

/-- Looking for a product fails for one of these reasons. -/
theorem meets_resolveProduct (r : Request) (qualifier : Option String) :
    Except.Meets (fun _ => True) (a.Unresolved r qualifier) (a.resolveProduct r qualifier) := by
  unfold resolveProduct
  cases qualifier with
  | some package =>
    dsimp only
    -- The error names the dependency that has been searched.
    have hnotFound {searched : Option Identity} (heq : a.qualified? r.manifest package = searched)
        (hnone : ∀ id, searched = some id → ¬ a.catalog.Vends id r.product) :
        a.Unresolved r (some package) (a.notFound r (some package) searched) := by
      have hsearched : a.searched? r (some package) = searched := heq
      rw [← hsearched] at hnone ⊢
      exact .notFound hnone fun h => nomatch h
    unfold resolveQualified
    split
    · next hqualified =>
      split
      · next hown => exact .of_error (.own (Bool.and_eq_true_iff.1 hown).2)
      · exact .of_error (hnotFound hqualified fun _ h => nomatch h)
    · next id hqualified =>
      split
      · split
        · exact .of_ok trivial
        · next hmissing =>
          refine .of_error (hnotFound hqualified fun _ h => ?_)
          exact Option.some.inj h ▸ productIn?_eq_none.1 hmissing
      · split
        · exact .of_ok trivial
        · next hmay =>
          refine .of_error (hnotFound hqualified fun _ h hvends => hmay ?_)
          -- A package that vends the product has a manifest that declares it.
          obtain ⟨m, declared, hm, hdeclared, -⟩ := Option.some.inj h ▸ hvends
          simp [mayVend, hm, hdeclared]
  | none =>
    dsimp only
    unfold resolveUnqualified
    dsimp only
    split
    · exact .of_ok trivial
    · split
      · next hown => exact .of_error (.own hown)
      · next hown =>
        split
        · exact .of_ok trivial
        · have hown : r.manifest.product? r.product = none := by simpa using hown
          exact .of_error (.notFound (fun _ h => nomatch h) fun _ => hown)
    · exact .of_error (.ambiguous _)

section
variable {id : Identity} {m : Manifest} {decl : ModuleDecl} (hentry : (id, m) ∈ a.entries)
  (hdecl : decl ∈ m.modules.filter (hasModule (a.catalog.isRoot id)))
include hentry hdecl

/-- So does looking for what a dependency points at, or the module that it names is not there. -/
theorem meets_target? {d : ModuleDependency} (hd : d ∈ decl.dependencies)
    (hen : d.enabledBy (a.traits.of id) = true) :
    Except.Meets (fun _ => True) a.Fails (a.target? id m decl d) := by
  -- An unresolved product is a failure of a dependency that is enabled.
  have hresolve {name : String} {qualifier : Option String} (hasks : m.AsksFor d name qualifier) :
      Except.Meets (fun _ => True) a.Fails
        ((a.resolveProduct ⟨id, m, decl, name⟩ qualifier).map (·.map EdgeTarget.product)) := by
    have hmeets := a.meets_resolveProduct ⟨id, m, decl, name⟩ qualifier
    have hrequest : a.Asks ⟨id, m, decl, name⟩ qualifier := ⟨hentry, hdecl, d, hd, hen, hasks⟩
    exact Except.Meets.map ⟨hmeets.ok, fun e he => .unresolved hrequest (hmeets.error e he)⟩
      fun _ _ => trivial
  unfold target?
  split
  · next name htarget =>
    -- A module by name, which can be missing.
    split
    · next hmodule =>
      exact .of_error (.unknownModule decl name hentry (Option.isNone_iff_eq_none.1 hmodule))
    · exact .of_ok trivial
  · next name htarget =>
    split
    · exact .of_ok trivial
    · -- No module has the name, so it is that of a product.
      next hmodule => exact hresolve (.byName htarget (by simpa using hmodule))
  · next name qualifier aliases htarget => exact hresolve (.product qualifier aliases htarget)

/-- So does resolving the dependencies of a module. -/
theorem meets_links :
    Except.Meets (fun _ => True) a.Fails (a.links id m decl (a.traits.of id)) := by
  unfold links
  refine Except.Meets.foldlM (fun d hd l _ => ?_) trivial
  unfold link
  split
  · exact .of_ok trivial
  · next hen =>
    refine (meets_target? hentry hdecl hd (by simpa using hen)).bind fun target _ => ?_
    split
    · exact .of_ok trivial
    · dsimp only
      split
      · exact .of_ok trivial
      · exact .of_ok trivial

end

/-- A module without an artifact is reported, and that is no failure. -/
theorem meets_artifactOf (package : Identity) (decl : ModuleDecl) :
    Except.Meets (fun _ => True) a.Fails (a.artifactOf package decl).result := by
  unfold artifactOf
  split
  · exact .of_ok trivial
  · split
    · exact .of_ok trivial
    · exact .of_ok trivial

/-- Neither are files that cannot be listed or that no rule knows. -/
theorem meets_sourcesAt (package : Identity) (path : Path) :
    Except.Meets (fun _ => True) a.Fails (a.sourcesAt package path).result := by
  unfold sourcesAt
  split
  · exact .of_ok trivial
  · split
    · exact .of_ok trivial
    · dsimp only
      split
      · exact .of_ok trivial
      · exact .of_ok trivial

/-- Assembling the modules of a package fails for their dependencies. -/
theorem meets_stage {entry : Identity × Manifest} (hentry : entry ∈ a.entries) :
    Except.Meets (fun _ => True) a.Fails (a.stage entry).result := by
  unfold stage
  simp only [Logged.result_bind, Logged.result_mapList]
  refine Except.Meets.bind (Except.Meets.mapM fun decl hdecl => ?_) fun _ _ => .of_ok trivial
  unfold module
  simp only [Logged.result_bind, Logged.result_ofExcept]
  refine (meets_links hentry hdecl).bind fun _ _ => ?_
  refine (meets_artifactOf entry.1 decl).bind fun _ _ => ?_
  exact (meets_sourcesAt entry.1 _).bind fun _ _ => .of_ok trivial

/-! ### Products -/

/-- Choosing other names for modules fails where several are asked for. -/
theorem meets_aliasesFor (table : AliasTable) (product : ProductId) :
    Except.Meets (fun _ => True) a.Fails (table.aliasesFor product) := by
  unfold AliasTable.aliasesFor
  refine Except.Meets.bind (Except.Meets.mapM fun entry _ => ?_) fun _ _ => .of_ok trivial
  unfold AliasTable.nameFor
  split
  · exact .of_ok trivial
  · exact .of_ok trivial
  · exact .of_error (.multipleAliases ..)

/-- A member that is not found is reported, and that is no failure. -/
theorem meets_memberOf (id : Identity) (modules : List Module) (product name : String) :
    Except.Meets (fun _ => True) a.Fails (memberOf id modules product name).result := by
  unfold memberOf
  split
  · exact .of_ok trivial
  · exact .of_ok trivial

/-- Assembling the products of a package fails for other names of modules. -/
theorem meets_package (table : AliasTable) (s : Staged) :
    Except.Meets (fun _ => True) a.Fails (a.package table s).result := by
  unfold package
  simp only [Logged.result_bind, Logged.result_mapList]
  refine Except.Meets.bind (Except.Meets.mapM fun decl _ => ?_) fun _ _ => .of_ok trivial
  unfold declaredProduct
  simp only [Logged.result_bind, Logged.result_ofExcept, Logged.result_mapList]
  refine Except.Meets.bind (Except.Meets.mapM fun name _ => meets_memberOf _ _ _ name)
    fun _ _ => ?_
  exact (meets_aliasesFor table _).bind fun _ _ => .of_ok trivial

/-- Assembly fails for one of these reasons. -/
theorem meets_assemble (a : Assembly) :
    Except.Meets (fun _ => True) a.Fails a.assemble.result := by
  unfold assemble stageAll
  simp only [Logged.result_bind, Logged.result_mapList]
  refine Except.Meets.bind (Except.Meets.mapM fun entry hentry => meets_stage hentry)
    fun staged _ => ?_
  exact Except.Meets.bind (Except.Meets.mapM fun s _ => meets_package _ s)
    fun _ _ => .of_ok trivial

end ModuleGraph.Assembly
