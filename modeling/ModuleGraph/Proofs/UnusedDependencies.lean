import ModuleGraph.Proofs.Aliases
import ModuleGraph.Proofs.Journal

/-!
# Dependencies that nothing uses

A dependency of a root is reported if it vends no tools and no module of the root has an edge to one
of its products, or records a prebuilt library that names it.  The library that replaces a product
is found at the package of the product, but it is counted for the package that it names itself.  So
a dependency is reported exactly if no active reference to a product counts for it, and where every
library names the package that it is found at, exactly if no active reference means a product of it.

## Key results

- `Assembly.reports_assemble`: what assembly reports
- `Assembly.Assembled.count_unusedWarnings`: an unused dependency is reported once
- `Source.BuiltFrom.usesPackage_iff`: which references count for a dependency
- `Source.load_warns_unused`: the reports of a load about dependencies that nothing uses
-/

namespace ModuleGraph

namespace Assembly

/-- The report that a root does not use a dependency. -/
def unusedWarning (root id : Identity) : Diagnostic :=
  (Diagnostic.warning s!"dependency '{id}' is not used by any target").about root.name

/-- The report that a binary module has no artifact. -/
def missingArtifact (package : Identity) (module : String) : Diagnostic :=
  (Diagnostic.warning s!"binary target '{module}' has no artifact").about package.name

/-- What assembly reports. -/
inductive Notes : Report → Prop
  | missingArtifact (package : Identity) (module : String) :
      Notes (.diagnostic (missingArtifact package module))
  | unhandled (package : Identity) (files : List Path) :
      Notes (.diagnostic (unhandledWarning package files))
  | logLine (text : String) : Notes (.logLine text)

/-! ### The reports of assembly -/

variable {a : Assembly}

/-- Assembling a module reports its artifact and its files at most. -/
theorem reports_module (package : Identity) (m : Manifest) (decl : ModuleDecl) :
    (a.module package m decl).Reports Notes := by
  unfold module
  -- Resolving the dependencies reports nothing; that leaves the artifact and the files.
  refine .bind (Logged.reports_of_nil rfl) fun l => .bind ?artifact fun artifact =>
    .bind ?sources fun sources => Logged.reports_of_nil rfl
  case artifact =>
    unfold artifactOf
    split
    · exact Logged.reports_of_nil rfl
    · split
      · exact Logged.reports_of_nil rfl
      · exact .bind (Logged.reports_tell (.missingArtifact package decl.name)) fun _ =>
          Logged.reports_of_nil rfl
  case sources =>
    unfold sourcesAt
    split
    · exact Logged.reports_of_nil rfl
    · split
      · exact .bind (Logged.reports_tell (.logLine _)) fun _ => Logged.reports_of_nil rfl
      · dsimp only
        split
        · exact .bind (Logged.reports_tell (.unhandled package _)) fun _ =>
            Logged.reports_of_nil rfl
        · exact Logged.reports_of_nil rfl

/-- Assembling the products of a package reports unknown members at most. -/
theorem reports_package (table : AliasTable) (s : Staged) : (a.package table s).Reports Notes := by
  unfold package
  refine .bind (.mapList (fun decl => ?_) _) fun _ => Logged.reports_of_nil rfl
  unfold declaredProduct
  refine .bind (.mapList (fun name => ?_) _) fun _ =>
    .bind (Logged.reports_of_nil rfl) fun _ => Logged.reports_of_nil rfl
  unfold memberOf
  split
  · exact Logged.reports_of_nil rfl
  · exact .bind (Logged.reports_tell (.logLine _)) fun _ => Logged.reports_of_nil rfl

/-- What assembly reports. -/
theorem reports_assemble (a : Assembly) : a.assemble.Reports Notes := by
  unfold assemble stageAll
  refine .bind (.mapList (fun entry => ?_) _) fun staged =>
    .bind (.mapList (reports_package _) _) fun _ => Logged.reports_of_nil rfl
  unfold stage
  exact .bind (.mapList (reports_module entry.1 entry.2) _) fun _ => Logged.reports_of_nil rfl

/-! ### Reports of unused dependencies -/

/-- The wording of the report. -/
theorem toList_message_unusedWarning (root id : Identity) :
    (unusedWarning root id).message.toList =
      "dependency '".toList ++ id.name.toList ++ "' is not used by any target".toList := by
  show (toString "dependency '" ++ toString id ++ toString "' is not used by any target").toList = _
  rw [String.toList_append, String.toList_append]
  rfl

/-- The report names the root and the dependency. -/
theorem unusedWarning_inj {root root' id id' : Identity}
    (h : unusedWarning root id = unusedWarning root' id') : root = root' ∧ id = id' := by
  obtain ⟨root⟩ := root
  obtain ⟨root'⟩ := root'
  obtain ⟨id⟩ := id
  obtain ⟨id'⟩ := id'
  have hpackage : some root = some root' := congrArg Diagnostic.package h
  have hmessage := congrArg (fun d => d.message.toList) h
  simp only [toList_message_unusedWarning] at hmessage
  rw [List.append_cancel_right_eq, List.append_cancel_left_eq, String.toList_inj] at hmessage
  exact ⟨congrArg _ (Option.some.inj hpackage), congrArg _ hmessage⟩

/-- Assembly does not report that a dependency is not used. -/
theorem Notes.ne_unusedWarning {r : Report} (h : Notes r) (root id : Identity) :
    r ≠ .diagnostic (unusedWarning root id) := by
  intro heq
  -- The wordings of the reports begin with different letters.
  have hletter {d : Diagnostic} (hd : d = unusedWarning root id) :
      d.message.toList.head? = some 'd' := by
    rw [hd, toList_message_unusedWarning]
    rfl
  cases h with
  | missingArtifact package module =>
    obtain ⟨rest, hmessage⟩ : ∃ rest, (Assembly.missingArtifact package module).message =
        "binary target '" ++ module ++ rest := ⟨_, rfl⟩
    have hb := hletter (Report.diagnostic.inj heq)
    rw [hmessage, String.toList_append, String.toList_append] at hb
    exact absurd hb (by simp)
  | unhandled package files =>
    obtain ⟨rest, hmessage⟩ : ∃ rest, (unhandledWarning package files).message =
        "found " ++ toString files.length ++ rest := ⟨_, rfl⟩
    have hf := hletter (Report.diagnostic.inj heq)
    rw [hmessage, String.toList_append, String.toList_append] at hf
    exact absurd hf (by simp)
  | logLine => exact nomatch heq

namespace Assembled

variable {a : Assembled}

/-- Which dependencies of a root are reported, where no package comes twice. -/
theorem mem_unusedDependencies (hids : (a.packages.map Package.identity).Nodup) {root p : Package}
    (hp : p ∈ a.packages) :
    p.identity ∈ a.unusedDependencies root ↔
      p.identity ∈ root.dependencies ∧ vendsTools p = false ∧
        usesPackage root p.identity = false := by
  -- The package is found by its identity.
  have hfind : a.packages.find? (·.identity == p.identity) = some p :=
    (List.find?_key_eq_some_iff hids).2 ⟨hp, rfl⟩
  unfold unusedDependencies
  rw [List.mem_filter, hfind]
  simp

/-- The reports, root by root. -/
theorem unusedWarnings_eq (a : Assembled) :
    a.unusedWarnings = (a.packages.filter (·.isRoot)).flatMap fun root =>
      (a.unusedDependencies root).map (unusedWarning root.identity) := rfl

/-- Every dependency of a root is reported once if nothing uses it, and otherwise not at all. -/
theorem count_unusedWarnings (hids : (a.packages.map Package.identity).Nodup)
    (hdeps : ∀ p ∈ a.packages, p.dependencies.Nodup) {root : Package} (hroot : root ∈ a.packages)
    (hisRoot : root.isRoot = true) (id : Identity) :
    a.unusedWarnings.count (unusedWarning root.identity id) =
      if id ∈ a.unusedDependencies root then 1 else 0 := by
  have hroots : ((a.packages.filter (·.isRoot)).map Package.identity).Nodup :=
    hids.sublist (List.filter_sublist.map _)
  -- A warning names the root and the dependency, so none is made twice.
  have hnodup : a.unusedWarnings.Nodup := by
    rw [unusedWarnings_eq, List.nodup_flatMap]
    constructor
    · intro p hp
      have hunused : (a.unusedDependencies p).Nodup :=
        (hdeps p (List.mem_filter.1 hp).1).sublist List.filter_sublist
      exact hunused.map fun _ _ heq => (unusedWarning_inj heq).2
    · refine (List.pairwise_map.1 hroots).imp fun hne w hw hw' => ?_
      obtain ⟨_, -, rfl⟩ := List.mem_map.1 hw
      obtain ⟨_, -, heq⟩ := List.mem_map.1 hw'
      exact hne (unusedWarning_inj heq).1.symm
  -- For the same reason the warning can only be made for this root.
  have hmem : unusedWarning root.identity id ∈ a.unusedWarnings ↔
      id ∈ a.unusedDependencies root := by
    rw [unusedWarnings_eq, List.mem_flatMap]
    constructor
    · rintro ⟨p, hp, hw⟩
      obtain ⟨id', hid', heq⟩ := List.mem_map.1 hw
      obtain ⟨hidentity, rfl⟩ := unusedWarning_inj heq
      exact List.inj_on_of_nodup_map hids (List.mem_filter.1 hp).1 hroot hidentity ▸ hid'
    · intro hid
      exact ⟨root, List.mem_filter.2 ⟨hroot, hisRoot⟩, List.mem_map_of_mem hid⟩
  rw [hnodup.count]
  simp only [hmem]

end Assembled

end Assembly

/-- A package has products for which nobody needs an edge. -/
def Package.VendsTools (p : Package) : Prop :=
  ∃ q ∈ p.products, q.kind = .executable ∨ q.kind = .plugin

namespace Source

/-- A module of a package, of some kind, has an active reference that means a product. -/
def RefersTo (s : Source) (p : Package) (kind : ModuleKind) (product : ProductId) : Prop :=
  ∃ decl ∈ p.manifest.modules, decl.kind = kind ∧
    ∃ d ∈ decl.dependencies, d.enabledBy p.enabledTraits = true ∧ s.Means p d (.product product)

/-- A prebuilt library takes the place of a product in the modules of some kind. -/
def Replaces (s : Source) (kind : ModuleKind) (product : ProductId) (library : Prebuilt) : Prop :=
  (kind = .macroModule ∨ kind = .test) ∧
    s.prebuilts.find? product.package product.name = some library

/-- The package that a reference to a product counts for: the package of the product where an edge
points at it, and the one that the library names where a library takes its place. -/
inductive CountsFor (s : Source) (kind : ModuleKind) (product : ProductId) : Identity → Prop
  | edge (h : ∀ library, ¬ s.Replaces kind product library) :
      CountsFor s kind product product.package
  | library {library : Prebuilt} (h : s.Replaces kind product library) :
      CountsFor s kind product library.identity

/-- An active reference of the package means a product of a dependency. -/
def UsesDependency (s : Source) (p : Package) (id : Identity) : Prop :=
  ∃ kind product, s.RefersTo p kind product ∧ product.package = id

/-- An active reference of the package counts for a dependency. -/
def CountsAsUsed (s : Source) (p : Package) (id : Identity) : Prop :=
  ∃ kind product, s.RefersTo p kind product ∧ s.CountsFor kind product id

/-- The libraries that replace products in the modules of a package name the package that they are
found at. -/
def LabelsAgree (s : Source) (p : Package) : Prop :=
  ∀ kind product library, s.RefersTo p kind product → s.Replaces kind product library →
    library.identity = product.package

/-- Where the libraries name the package that they are found at, it is the uses that count. -/
theorem LabelsAgree.countsAsUsed_iff {s : Source} {p : Package} (h : s.LabelsAgree p)
    {id : Identity} : s.CountsAsUsed p id ↔ s.UsesDependency p id := by
  constructor
  · rintro ⟨kind, product, hrefers, hcounts⟩
    cases hcounts with
    | edge => exact ⟨kind, product, hrefers, rfl⟩
    | library hreplaces =>
      exact ⟨kind, product, hrefers, (h kind product _ hrefers hreplaces).symm⟩
  · rintro ⟨kind, product, hrefers, rfl⟩
    refine ⟨kind, product, hrefers, ?_⟩
    by_cases hreplaced : ∃ library, s.Replaces kind product library
    · obtain ⟨library, hreplaces⟩ := hreplaced
      exact h kind product library hrefers hreplaces ▸ .library hreplaces
    · exact .edge fun library hreplaces => hreplaced ⟨library, hreplaces⟩

/-- What assembly puts in the place of a product. -/
theorem substitute?_eq_some_iff {s : Source} {traits : EnabledTraits} {d : Discovery}
    {kind : ModuleKind} {product : ProductId} {library : Prebuilt} :
    (s.assembly traits d).substitute? kind (.product product) = some library ↔
      s.Replaces kind product library := by
  unfold Assembly.substitute? Replaces
  dsimp only
  rw [← Option.mem_def, Option.mem_ite_none_right]
  simp [assembly]

/-- Assembly leaves a product in its place if no library is there for it. -/
theorem substitute?_eq_none_iff {s : Source} {traits : EnabledTraits} {d : Discovery}
    {kind : ModuleKind} {product : ProductId} :
    (s.assembly traits d).substitute? kind (.product product) = none ↔
      ∀ library, ¬ s.Replaces kind product library := by
  rw [Option.eq_none_iff_forall_ne_some]
  exact forall_congr' fun library => not_congr substitute?_eq_some_iff

namespace BuiltFrom

variable {s : Source} {g : Graph} {parts : Parts} (h : s.BuiltFrom g parts)
include h

/-- What the check finds in the modules of a root is there for a reference that counts. -/
theorem countsAsUsed_of_usesPackage {root : Package} (hroot : root ∈ g.packages.toList)
    {id : Identity} (huses : Assembly.Assembled.usesPackage root id = true) :
    s.CountsAsUsed root id := by
  have htraits : root.enabledTraits = parts.traits.of root.identity :=
    (h.isPackage hroot).enabledTraits
  obtain ⟨m, hm, hused⟩ := List.any_eq_true.1 huses
  obtain ⟨decl, hdecl, hmodule⟩ := (h.modules hroot).exists_of_mem_right hm
  obtain ⟨l, hl, hedges, hprebuilts⟩ := hmodule.links
  have hfounded := Assembly.links_founded hl
  -- What is recorded comes from an active reference of the module to a product.
  have hrefers {d : ModuleDependency} {product : ProductId} (hd : d ∈ decl.dependencies)
      (hen : d.enabledBy (parts.traits.of root.identity) = true)
      (ht : (s.assembly parts.traits parts.discovery).target? root.identity root.manifest decl d =
        .ok (some (.product product))) : s.RefersTo root decl.kind product :=
    ⟨decl, (List.mem_filter.1 hdecl).1, rfl, d, hd, htraits ▸ hen,
      (h.target?_iff_means hroot ht).1 rfl⟩
  rcases Bool.or_eq_true_iff.1 hused with hedge | hlibrary
  · obtain ⟨product, hproduct, hpackage⟩ := List.any_eq_true.1 hedge
    obtain ⟨⟨target, conditions⟩, he, hproduct⟩ := List.mem_filterMap.1 hproduct
    obtain ⟨d, hd, hen, ht, hsub⟩ := hfounded.edges _ (hedges ▸ he)
    cases target with
    | module m' => exact nomatch hproduct
    | product product' =>
      cases hproduct
      rw [← beq_iff_eq.1 hpackage]
      exact ⟨decl.kind, product, hrefers hd hen ht, .edge (substitute?_eq_none_iff.1 hsub)⟩
  · obtain ⟨library, hmem, hidentity⟩ := List.any_eq_true.1 hlibrary
    obtain ⟨d, hd, hen, target, ht, hsub⟩ := hfounded.prebuilts library (hprebuilts ▸ hmem)
    obtain ⟨-, product, rfl, -⟩ := Assembly.substitute?_eq_some hsub
    rw [← beq_iff_eq.1 hidentity]
    exact ⟨decl.kind, product, hrefers hd hen ht, .library (substitute?_eq_some_iff.1 hsub)⟩

/-- A reference of a root that counts has left an edge or a library behind, which the check finds.
-/
theorem usesPackage_of_countsAsUsed {root : Package} (hroot : root ∈ g.packages.toList)
    (hisRoot : root.isRoot = true) {id : Identity} (hused : s.CountsAsUsed root id) :
    Assembly.Assembled.usesPackage root id = true := by
  have htraits : root.enabledTraits = parts.traits.of root.identity :=
    (h.isPackage hroot).enabledTraits
  obtain ⟨kind, product, ⟨decl, hdecl, rfl, d, hd, hen, hmeans⟩, hcounts⟩ := hused
  -- A root has all modules that it declares.
  have hkept : decl ∈ root.manifest.modules.filter (Assembly.hasModule root.isRoot) := by
    rw [hisRoot]
    exact List.mem_filter.2 ⟨hdecl, rfl⟩
  obtain ⟨m, hm, hmodule⟩ := (h.modules hroot).exists_of_mem_left hkept
  obtain ⟨l, hl, hedges, hprebuilts⟩ := hmodule.links
  obtain ⟨t, ht, hrecords⟩ := Assembly.links_ok hl d hd (htraits ▸ hen)
  have hrecorded := hrecords _ ((h.target?_iff_means hroot ht).2 hmeans)
  unfold Assembly.Records at hrecorded
  refine List.any_eq_true.2 ⟨m, hm, Bool.or_eq_true_iff.2 ?_⟩
  cases hcounts with
  | edge hnone =>
    rw [substitute?_eq_none_iff.2 hnone] at hrecorded
    have hproduct : product ∈ m.edges.filterMap (·.product?) :=
      List.mem_filterMap.2 ⟨⟨.product product, d.conditions⟩, hedges ▸ hrecorded, rfl⟩
    exact .inl (List.any_eq_true.2 ⟨product, hproduct, beq_self_eq_true _⟩)
  | library hreplaces =>
    rw [substitute?_eq_some_iff.2 hreplaces] at hrecorded
    obtain ⟨recorded, hmem, hsame⟩ := hrecorded
    refine .inr (List.any_eq_true.2 ⟨recorded, hprebuilts ▸ hmem, ?_⟩)
    -- Libraries that count as the same name the same package.
    unfold Prebuilt.same at hsame
    simp only [Bool.and_eq_true, beq_iff_eq] at hsame
    exact beq_iff_eq.2 hsame.1.1.1.1.symm

/-- The references that count for a dependency of a root are those that the check finds. -/
theorem usesPackage_iff {root : Package} (hroot : root ∈ g.packages.toList)
    (hisRoot : root.isRoot = true) {id : Identity} :
    Assembly.Assembled.usesPackage root id = true ↔ s.CountsAsUsed root id :=
  ⟨h.countsAsUsed_of_usesPackage hroot, h.usesPackage_of_countsAsUsed hroot hisRoot⟩

/-- What a load reports: what assembly does, and then the dependencies that nothing uses. -/
theorem journal_load :
    s.load.journal = (s.assembly parts.traits parts.discovery).assemble.journal ++
      parts.assembled.unusedWarnings.map .diagnostic := by
  have hassembled := h.assembled
  unfold Source.assembled at hassembled
  obtain ⟨traits, htraits, hassembled⟩ := Except.bind_eq_ok.1 hassembled
  obtain ⟨d, hd, hassembled⟩ := Except.bind_eq_ok.1 hassembled
  obtain ⟨_, hcycles, hassembled⟩ := Except.bind_eq_ok.1 hassembled
  obtain ⟨a, ha, hassembled⟩ := Except.bind_eq_ok.1 hassembled
  have hparts : parts = ⟨traits, d, a⟩ := (Except.ok.inj hassembled).symm
  have hchecked := h.checked
  subst hparts
  -- Every stage has succeeded, so the reports of the next one follow.
  obtain ⟨u, hu⟩ := Logged.exists_mapList_tell (ε := GraphError) Report.diagnostic a.unusedWarnings
  unfold load
  rw [Logged.journal_bind_of_ok htraits, Logged.journal_bind_of_ok hd,
    Logged.journal_bind_of_ok hcycles, Logged.journal_bind_of_ok ha,
    Logged.journal_bind_of_ok hchecked, Logged.journal_bind_of_ok hu,
    Logged.journal_mapList_tell]
  simp

end BuiltFrom

/-- The packages that a graph is built from are reported once for each dependency that nothing uses.
-/
theorem BuiltFrom.count_unusedWarning {s : Source} {g : Graph} {parts : Parts}
    (h : s.BuiltFrom g parts) {root : Package} (hroot : root ∈ g.packages.toList)
    (hisRoot : root.isRoot = true) (id : Identity) :
    s.load.journal.diagnostics.count (Assembly.unusedWarning root.identity id) =
      if id ∈ parts.assembled.unusedDependencies root then 1 else 0 := by
  obtain ⟨-, hdiscover, -⟩ := assembled_ok h.assembled
  have hdeps : ∀ p ∈ parts.assembled.packages, p.dependencies.Nodup := by
    intro p hp
    rw [(h.isPackage (h.mem_packages.2 hp)).dependencies]
    exact Catalog.discover_nodup_edges hdiscover _
  -- Assembly has reports of other kinds.
  have hassembly : Assembly.unusedWarning root.identity id ∉
      (s.assembly parts.traits parts.discovery).assemble.journal.diagnostics := fun hmem =>
    (Assembly.reports_assemble _ _ (Journal.mem_diagnostics.1 hmem)).ne_unusedWarning _ _ rfl
  rw [h.journal_load, Journal.diagnostics_append, Journal.diagnostics_map, List.count_append,
    List.count_eq_zero_of_not_mem hassembly, Nat.zero_add]
  exact Assembly.Assembled.count_unusedWarnings h.assembles.ids.1 hdeps (h.mem_packages.1 hroot)
    hisRoot id

/-- In a load that succeeds, every dependency of a root is a package of the graph, and it is
reported once as not used, exactly if it vends no tools and no active reference of the root counts
for it; and otherwise not at all.  Where the prebuilt libraries name the package that they are found
at, these are the references that mean a product of the dependency, whether they have become edges
or not. -/
theorem load_warns_unused {s : Source} {g : Graph} (h : s.load.result = .ok g) :
    ∀ root ∈ g.packages.toList, root.isRoot = true → ∀ id ∈ root.dependencies,
      ∃ p ∈ g.packages.toList, p.identity = id ∧
        s.load.journal.diagnostics.count (Assembly.unusedWarning root.identity id) ≤ 1 ∧
        (s.load.journal.diagnostics.count (Assembly.unusedWarning root.identity id) = 1 ↔
          ¬ p.VendsTools ∧ ¬ s.CountsAsUsed root id) ∧
        (s.LabelsAgree root →
          (s.load.journal.diagnostics.count (Assembly.unusedWarning root.identity id) = 1 ↔
            ¬ p.VendsTools ∧ ¬ s.UsesDependency root id)) := by
  intro root hroot hisRoot id hid
  obtain ⟨parts, hbuilt⟩ := exists_builtFrom h
  obtain ⟨p, hp, rfl⟩ := hbuilt.exists_dependency hroot hid
  -- The two conditions of the check, in terms of the source.
  have htools : Assembly.Assembled.vendsTools p = false ↔ ¬ p.VendsTools := by
    rw [← Bool.not_eq_true, Assembly.Assembled.vendsTools, Package.VendsTools, List.any_eq_true]
    simp
  have hunused : p.identity ∈ parts.assembled.unusedDependencies root ↔
      ¬ p.VendsTools ∧ ¬ s.CountsAsUsed root p.identity := by
    rw [Assembly.Assembled.mem_unusedDependencies hbuilt.assembles.ids.1 (hbuilt.mem_packages.1 hp),
      and_iff_right hid, htools, ← hbuilt.usesPackage_iff hroot hisRoot, Bool.not_eq_true]
  -- The warning is made as often as the dependency stands among the unused ones, once or never.
  have hcount := hbuilt.count_unusedWarning hroot hisRoot p.identity
  have hone : s.load.journal.diagnostics.count
      (Assembly.unusedWarning root.identity p.identity) = 1 ↔
        ¬ p.VendsTools ∧ ¬ s.CountsAsUsed root p.identity := by
    rw [hcount, ← hunused, ite_eq_left_iff]
    simp
  refine ⟨p, hp, rfl, ?_, hone, fun hlabels => ?_⟩
  · rw [hcount]
    split <;> omega
  · rw [hone, hlabels.countsAsUsed_iff]

end Source

/-- A root with two dependencies, one of which its test uses. -/
def testedApp : Manifest :=
  { Manifest.bare (.root ⟨"/app"⟩) "App" with
    modules := [⟨"AppTests", .test, none, [⟨.product "Kit" (some "kit") KeyedSet.empty, none⟩]⟩]
    dependencies := [.onRegistry "kit" none, .onRegistry "log" none] }

/-- A prebuilt library replaces the product that the test uses, but it names the other dependency.
-/
def mislabelled : Source :=
  { Source.ofManifests
      [testedApp, usingPackages (.registry "kit") "Kit" [],
        usingPackages (.registry "log") "Log" []] with
    prebuilts := KeyedSet.ofList [(⟨"kit"⟩, KeyedSet.ofList
      [("Kit", ⟨⟨"log"⟩, "KitPrebuilt", ⟨"/prebuilts/kit"⟩, ["Kit"], none⟩)])] }

/-- The dependency that is used is reported, and the other one is not. -/
theorem load_warns_unused_mislabelled :
    ∃ g root, mislabelled.load.result = .ok g ∧ root ∈ g.packages.toList ∧ root.isRoot = true ∧
      mislabelled.UsesDependency root ⟨"kit"⟩ ∧
      mislabelled.load.journal.diagnostics.count
        (Assembly.unusedWarning root.identity ⟨"kit"⟩) = 1 ∧
      ¬ mislabelled.CountsAsUsed root ⟨"kit"⟩ ∧
      mislabelled.load.journal.diagnostics.count
        (Assembly.unusedWarning root.identity ⟨"log"⟩) ≠ 1 ∧
      mislabelled.CountsAsUsed root ⟨"log"⟩ := by
  -- What the run itself answers is evaluated once, on the loaded graph.
  have hany : (mislabelled.load.result.toOption.any fun g => g.packages.toList.any fun p =>
      decide (p.isRoot = true ∧ p.identity = ⟨"app"⟩ ∧ p.manifest = testedApp ∧
        p.dependencies = [⟨"kit"⟩, ⟨"log"⟩])) = true := by
    decide +kernel
  obtain ⟨g, hload, hg⟩ := Except.exists_ok_of_any hany
  obtain ⟨root, hroot, hok⟩ := List.any_eq_true.1 hg
  obtain ⟨hisRoot, hidentity, hmanifest, hdeps⟩ := of_decide_eq_true hok
  have hcount : mislabelled.load.journal.diagnostics.count
      (Assembly.unusedWarning root.identity ⟨"kit"⟩) = 1 := by
    rw [hidentity]
    decide +kernel
  -- `kit` is used: the test refers to a product that `kit` vends.
  have hvends : mislabelled.catalog.Vends ⟨"kit"⟩ "Kit" :=
    ⟨usingPackages (.registry "kit") "Kit" [], ⟨"Kit", .library, ["Kit"]⟩, by decide +kernel, rfl,
      fun h => nomatch h⟩
  have hmeans : mislabelled.Means root ⟨.product "Kit" (some "kit") KeyedSet.empty, none⟩
      (.product ⟨⟨"kit"⟩, "Kit"⟩) := by
    refine .qualified "Kit" "kit" KeyedSet.empty (.onRegistry "kit" none) rfl ?_ ?_ hvends
    · rw [hmanifest]
      decide +kernel
    · rw [hdeps]
      exact List.mem_cons_self
  have hrefers : mislabelled.RefersTo root .test ⟨⟨"kit"⟩, "Kit"⟩ := by
    unfold Source.RefersTo
    rw [hmanifest]
    exact ⟨_, List.mem_cons_self, rfl, _, List.mem_cons_self, rfl, hmeans⟩
  -- The prebuilt in its place calls itself `log`, so `log` counts as used.
  have hreplaces : mislabelled.Replaces .test ⟨⟨"kit"⟩, "Kit"⟩
      ⟨⟨"log"⟩, "KitPrebuilt", ⟨"/prebuilts/kit"⟩, ["Kit"], none⟩ := ⟨.inr rfl, by decide +kernel⟩
  have hcounts : mislabelled.CountsAsUsed root ⟨"log"⟩ := ⟨_, _, hrefers, .library hreplaces⟩
  -- The general result at each of the two dependencies.
  obtain ⟨_, -, -, -, hkit, -⟩ :=
    Source.load_warns_unused hload root hroot hisRoot ⟨"kit"⟩ (hdeps ▸ by simp)
  obtain ⟨_, -, -, -, hlog, -⟩ :=
    Source.load_warns_unused hload root hroot hisRoot ⟨"log"⟩ (hdeps ▸ by simp)
  exact ⟨g, root, hload, hroot, hisRoot, ⟨_, _, hrefers, rfl⟩, hcount, (hkit.1 hcount).2,
    fun hone => (hlog.1 hone).2 hcounts, hcounts⟩

end ModuleGraph
