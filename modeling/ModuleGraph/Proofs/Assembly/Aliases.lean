import ModuleGraph.Proofs.Assembly.Links
import ModuleGraph.Proofs.Assembly.Products
import ModuleGraph.Proofs.KeyedSet
import Mathlib.Data.List.ReduceOption

/-!
# Requests for other names of modules

While modules are assembled, all requests to call a module of a product by another name are noted
in one table.  When the products are assembled, all requests are there, whatever packages they come
from, and a product takes those that are noted under its id.  Two names for one module are refused
then, so that no product hides that requests contradict each other.

## Key results

- `AliasTable.has_ofList`: the table has exactly the requests that were added
- `AliasTable.aliasesFor_ok`: a product takes all names that are requested, one for each module
- `mem_links_aliases`: the requests of a module are those of its enabled dependencies
- `assemble_aliases`: which other names the products of the packages have
-/

namespace ModuleGraph.Assembly

/-! ### The table of requests -/

namespace AliasTable

/-- The names that are requested for the modules of a product. -/
def requested (t : AliasTable) (product : ProductId) : SortedMap String Names :=
  SortedMap.getD t product KeyedSet.empty

/-- A request is noted in the table. -/
def Has (t : AliasTable) (r : AliasRequest) : Prop :=
  r.newName ∈ (SortedMap.getD (t.requested r.product) r.module KeyedSet.empty : Names).toList

/-- The names that are noted for a module stand at the module. -/
theorem has_iff {t : AliasTable} {product : ProductId} {module name : String} :
    t.Has ⟨product, module, name⟩ ↔
      ∃ names : Names, (module, names) ∈ (t.requested product).toList ∧ name ∈ names.toList := by
  unfold Has SortedMap.getD
  dsimp only
  simp only [← SortedMap.get?_eq_some_iff]
  cases SortedMap.get? (t.requested product) module with
  | none => simp [KeyedSet.empty]
  | some names => simp

/-- Adding a request notes it beside those that are there. -/
theorem has_add {t : AliasTable} {r r' : AliasRequest} :
    (t.add r).Has r' ↔ r' = r ∨ t.Has r' := by
  obtain ⟨product, module, newName⟩ := r
  obtain ⟨product', module', newName'⟩ := r'
  have hadd : t.add ⟨product, module, newName⟩ =
      SortedMap.update t product KeyedSet.empty fun ofProduct =>
        SortedMap.update ofProduct module KeyedSet.empty (·.insert newName) := rfl
  unfold Has requested
  rw [hadd]
  dsimp only
  -- The table is a map of maps: the product is compared first, then the module.
  by_cases hproduct : product' = product
  · subst hproduct
    rw [SortedMap.getD_update_self]
    by_cases hmodule : module' = module
    · subst hmodule
      rw [SortedMap.getD_update_self, SortedSet.mem_insert]
      simp
    · rw [SortedMap.getD_update_of_ne _ _ _ hmodule]
      simp [hmodule]
  · rw [SortedMap.getD_update_of_ne _ _ _ hproduct]
    simp [hproduct]

/-- The table has exactly the requests that were added. -/
theorem has_ofList {requests : List AliasRequest} {r : AliasRequest} :
    (ofList requests).Has r ↔ r ∈ requests := by
  have hfold (t : AliasTable) : (requests.foldl add t).Has r ↔ r ∈ requests ∨ t.Has r := by
    induction requests generalizing t with
    | nil => simp
    | cons first requests ih => rw [List.foldl_cons, ih, has_add, List.mem_cons, or_left_comm,
        or_assoc]
  rw [ofList, hfold, or_iff_left]
  exact fun hnone => nomatch hnone

/-- The one name for a module is the only one that is requested. -/
theorem nameFor_ok {product : ProductId} {entry : String × Names}
    {found : Option (String × String)} (h : nameFor product entry = .ok found) :
    found = entry.2.toList.head?.map (entry.1, ·) ∧
      ∀ name, name ∈ entry.2.toList ↔ entry.2.toList.head? = some name := by
  unfold nameFor at h
  split at h
  · next hnil =>
    cases h
    rw [hnil]
    exact ⟨rfl, by simp⟩
  · next name hname =>
    cases h
    rw [hname]
    exact ⟨rfl, by simp [eq_comm]⟩
  · exact nomatch h

/-- A product takes the names that are requested for its modules, and no two of them are requested
for one module. -/
theorem aliasesFor_ok {t : AliasTable} {product : ProductId} {aliases : SortedMap String String}
    (h : t.aliasesFor product = .ok aliases) :
    (∀ module name, (module, name) ∈ aliases.toList ↔ t.Has ⟨product, module, name⟩) ∧
      ∀ module name name', t.Has ⟨product, module, name⟩ → t.Has ⟨product, module, name'⟩ →
        name = name' := by
  unfold aliasesFor at h
  obtain ⟨names, hnames, hpure⟩ := Except.bind_eq_ok.1 h
  cases hpure
  have hitems := Except.mapM_eq_ok.1 hnames
  -- What is found for a module is its first name, and there is no other one.
  have hfound (module name : String) : (module, name) ∈ names.reduceOption ↔
      t.Has ⟨product, module, name⟩ := by
    rw [List.reduceOption_mem_iff, has_iff]
    constructor
    · intro hmem
      obtain ⟨⟨module', ns⟩, hentry, hok⟩ := hitems.exists_of_mem_right hmem
      obtain ⟨heq, hone⟩ := nameFor_ok hok
      obtain ⟨name', hhead, hpair⟩ := Option.map_eq_some_iff.1 heq.symm
      cases hpair
      exact ⟨ns, hentry, (hone name).2 hhead⟩
    · rintro ⟨ns, hentry, hname⟩
      obtain ⟨found, hmem, hok⟩ := hitems.exists_of_mem_left hentry
      obtain ⟨rfl, hone⟩ := nameFor_ok hok
      rw [(hone name).1 hname] at hmem
      exact hmem
  have hagree : ∀ module name name', t.Has ⟨product, module, name⟩ →
      t.Has ⟨product, module, name'⟩ → name = name' := by
    intro module name name' h h'
    obtain ⟨ns, hentry, hname⟩ := has_iff.1 h
    obtain ⟨ns', hentry', hname'⟩ := has_iff.1 h'
    obtain ⟨-, rfl⟩ := Prod.mk.inj (KeyedSet.key_inj hentry hentry' rfl)
    obtain ⟨found, -, hok⟩ := hitems.exists_of_mem_left hentry
    have hone := (nameFor_ok hok).2
    exact Option.some.inj (((hone name).1 hname).symm.trans ((hone name').1 hname'))
  refine ⟨fun module name => ⟨fun hmem => ?_, fun hhas => ?_⟩, hagree⟩
  · exact (hfound module name).1 (KeyedSet.mem_of_mem_ofList hmem)
  · refine KeyedSet.mem_ofList_of_unique ((hfound module name).2 hhas)
      fun ⟨module', name'⟩ hmem hkey => ?_
    obtain rfl : module' = module := hkey
    rw [hagree module' name' name ((hfound module' name').1 hmem) hhas]

end AliasTable

/-! ### The requests of modules -/

section
variable {a : Assembly} {id : Identity} {m : Manifest} {decl : ModuleDecl} {traits : Names}
  {r : AliasRequest}

/-- A dependency that the traits enable requests another name for a module of the product that it
is resolved to. -/
def Requests (a : Assembly) (id : Identity) (m : Manifest) (decl : ModuleDecl) (traits : Names)
    (d : ModuleDependency) (r : AliasRequest) : Prop :=
  d.enabledBy traits = true ∧
    ∃ target, a.target? id m decl d = .ok (some target) ∧ r ∈ aliasRequests d target

/-- Other names are requested for the modules of a product, in a dependency that asks for it. -/
theorem mem_aliasRequests {d : ModuleDependency} {target : EdgeTarget} {product : ProductId}
    {module name : String} :
    ⟨product, module, name⟩ ∈ aliasRequests d target ↔
      ∃ n package aliases, d.target = .product n package aliases ∧ target = .product product ∧
        (module, name) ∈ aliases.toList := by
  unfold aliasRequests
  split
  · next n package aliases product' htarget =>
    simp [htarget, eq_comm, and_comm]
  · next hother =>
    refine iff_of_false List.not_mem_nil ?_
    rintro ⟨n, package, aliases, htarget, rfl, -⟩
    exact hother n package aliases product htarget rfl

/-- Resolving a dependency adds the requests that it makes, also where a library takes the place of
the edge. -/
theorem mem_link_aliases {l l' : Links} {d : ModuleDependency}
    (h : a.link id m decl traits l d = .ok l') :
    r ∈ l'.aliases ↔ r ∈ l.aliases ∨ a.Requests id m decl traits d r := by
  unfold link at h
  unfold Requests
  cases hen : d.enabledBy traits with
  | false =>
    rw [hen] at h
    cases h
    simp
  | true =>
    rw [hen] at h
    obtain ⟨target, htarget, h⟩ := Except.bind_eq_ok.1 h
    rw [htarget]
    cases target with
    | none =>
      cases h
      simp
    | some target =>
      dsimp only at h
      -- An edge and a library in its place make the same requests.
      have haliases : l'.aliases = l.aliases ++ aliasRequests d target := by
        split at h <;> (cases h; rfl)
      rw [haliases]
      simp

/-- The requests of a module are those of its enabled dependencies. -/
theorem mem_links_aliases {l : Links} (h : a.links id m decl traits = .ok l) :
    r ∈ l.aliases ↔ ∃ d ∈ decl.dependencies, a.Requests id m decl traits d r := by
  have hfold {deps : List ModuleDependency} {start l : Links}
      (h : deps.foldlM (a.link id m decl traits) start = .ok l) :
      r ∈ l.aliases ↔ r ∈ start.aliases ∨ ∃ d ∈ deps, a.Requests id m decl traits d r := by
    induction deps generalizing start with
    | nil =>
      cases h
      simp
    | cons d deps ih =>
      obtain ⟨next, hlink, hrest⟩ := Except.foldlM_cons_eq_ok.1 h
      rw [ih hrest, mem_link_aliases hlink, or_assoc]
      simp
  rw [hfold h]
  simp

/-- The requests of an entry of discovery are those of its modules. -/
theorem stage_aliases {entry : Identity × Manifest} {s : Staged}
    (h : (a.stage entry).result = .ok s) :
    r ∈ s.aliases ↔
      ∃ decl ∈ entry.2.modules.filter (hasModule (a.catalog.isRoot entry.1)),
        ∃ d ∈ decl.dependencies, a.Requests entry.1 entry.2 decl (a.traits.of entry.1) d r := by
  -- The artifact and the files of a module request nothing.
  have hmodule {decl : ModuleDecl} {made : Module × List AliasRequest}
      (h : (a.module entry.1 entry.2 decl).result = .ok made) :
      r ∈ made.2 ↔
        ∃ d ∈ decl.dependencies, a.Requests entry.1 entry.2 decl (a.traits.of entry.1) d r := by
    unfold module at h
    obtain ⟨l, hl, h⟩ := Logged.bind_eq_ok.1 h
    obtain ⟨artifact, -, h⟩ := Logged.bind_eq_ok.1 h
    obtain ⟨sources, -, h⟩ := Logged.bind_eq_ok.1 h
    cases h
    exact mem_links_aliases hl
  unfold stage at h
  obtain ⟨modules, hmodules, h⟩ := Logged.bind_eq_ok.1 h
  cases h
  have hitems := Logged.mapList_eq_ok.1 hmodules
  rw [List.mem_flatMap]
  constructor
  · rintro ⟨made, hmade, hr⟩
    obtain ⟨decl, hdecl, hok⟩ := hitems.exists_of_mem_right hmade
    exact ⟨decl, hdecl, (hmodule hok).1 hr⟩
  · rintro ⟨decl, hdecl, hd⟩
    obtain ⟨made, hmade, hok⟩ := hitems.exists_of_mem_left hdecl
    exact ⟨made, hmade, (hmodule hok).2 hd⟩

end

/-- A module of some entry of discovery makes the request. -/
def RequestedIn (a : Assembly) (r : AliasRequest) : Prop :=
  ∃ entry ∈ a.entries, ∃ decl ∈ entry.2.modules.filter (hasModule (a.catalog.isRoot entry.1)),
    ∃ d ∈ decl.dependencies, a.Requests entry.1 entry.2 decl (a.traits.of entry.1) d r

/-! ### The products of packages -/

/-- The declared products of a package take what is noted for their ids, and those that are added
take nothing. -/
structure TakesAliases (a : Assembly) (table : AliasTable) (p : Package) : Prop where
  declared : ∀ decl ∈ p.manifest.products.filter (hasProduct p.isRoot),
    ∃ q ∈ p.products, q.synthesized = false ∧ q.id = ⟨p.identity, decl.name⟩
  taken : ∀ q ∈ p.products, q.synthesized = false → table.aliasesFor q.id = .ok q.aliases
  added : ∀ q ∈ p.products, q.synthesized = true →
    q ∈ a.addedProducts (staged p) ∧ q.aliases = KeyedSet.empty

section
variable {a : Assembly} {table : AliasTable} {s : Staged} {p : Package}

/-- A declared product takes what is noted for its id. -/
theorem declaredProduct_aliases {decl : ProductDecl} {q : Product}
    (h : (a.declaredProduct table s decl).result = .ok q) :
    q.synthesized = false ∧ table.aliasesFor q.id = .ok q.aliases := by
  unfold declaredProduct at h
  obtain ⟨members, -, h⟩ := Logged.bind_eq_ok.1 h
  obtain ⟨aliases, haliases, h⟩ := Logged.bind_eq_ok.1 h
  cases h
  exact ⟨rfl, haliases⟩

/-- What the products of a package take. -/
theorem package_takesAliases (h : (a.package table s).result = .ok p) : a.TakesAliases table p := by
  obtain ⟨hid, hm, hroot, hmods, -⟩ := package_ok h
  unfold package at h
  obtain ⟨declared, hdeclared, h⟩ := Logged.bind_eq_ok.1 h
  have hitems := Logged.mapList_eq_ok.1 hdeclared
  have hproducts : p.products = declared ++ a.addedProducts (staged p) := by
    rw [addedProducts_staged hid hm hroot hmods]
    cases h
    rfl
  -- Products that are added are marked so and take no aliases.
  have hadded : ∀ q ∈ a.addedProducts (staged p),
      q.synthesized = true ∧ q.aliases = KeyedSet.empty := by
    intro q hq
    obtain ⟨name, kind, made, -, rfl⟩ := exists_of_mem_addedProducts hq
    exact ⟨rfl, rfl⟩
  -- Declared ones take what the table has for them, which has to be free of conflicts.
  have hown : ∀ q ∈ declared, q.synthesized = false ∧ table.aliasesFor q.id = .ok q.aliases := by
    intro q hq
    obtain ⟨decl, -, hok⟩ := hitems.exists_of_mem_right hq
    exact declaredProduct_aliases hok
  refine ⟨fun decl hdecl => ?_, fun q hq hsyn => ?_, fun q hq hsyn => ?_⟩
  · -- Every declared product is there.
    rw [hm, hroot] at hdecl
    obtain ⟨q, hq, hok⟩ := hitems.exists_of_mem_left hdecl
    refine ⟨q, by simp [hproducts, hq], (hown q hq).1, ?_⟩
    rw [(declaredProduct_ok hok).1, hid]
  · -- A product that is not marked is a declared one.
    rw [hproducts] at hq
    rcases List.mem_append.1 hq with hq | hq
    · exact (hown q hq).2
    · rw [(hadded q hq).1] at hsyn
      exact nomatch hsyn
  · -- A product that is marked is an added one.
    rw [hproducts] at hq
    rcases List.mem_append.1 hq with hq | hq
    · rw [(hown q hq).1] at hsyn
      exact nomatch hsyn
    · exact ⟨hq, (hadded q hq).2⟩

/-- All products take their names from one table, which has the requests of all modules. -/
theorem assemble_aliases {assembled : Assembled} (h : a.assemble.result = .ok assembled) :
    ∃ table : AliasTable, (∀ r, table.Has r ↔ a.RequestedIn r) ∧
      ∀ p ∈ assembled.packages, a.TakesAliases table p := by
  unfold assemble at h
  obtain ⟨all, hall, h⟩ := Logged.bind_eq_ok.1 h
  obtain ⟨packages, hpackages, h⟩ := Logged.bind_eq_ok.1 h
  cases h
  have hitems := Logged.mapList_eq_ok.1 hall
  -- The table is made before the packages, from the requests of all entries.
  refine ⟨AliasTable.ofList (all.flatMap (·.aliases)), fun r => ?_, fun p hp => ?_⟩
  · rw [AliasTable.has_ofList, List.mem_flatMap]
    constructor
    · rintro ⟨s, hs, hr⟩
      obtain ⟨entry, hentry, hok⟩ := hitems.exists_of_mem_right hs
      exact ⟨entry, hentry, (stage_aliases hok).1 hr⟩
    · rintro ⟨entry, hentry, hr⟩
      obtain ⟨s, hs, hok⟩ := hitems.exists_of_mem_left hentry
      exact ⟨s, hs, (stage_aliases hok).2 hr⟩
  · obtain ⟨s, -, hok⟩ := (Logged.mapList_eq_ok.1 hpackages).exists_of_mem_right hp
    exact package_takesAliases hok

end

end ModuleGraph.Assembly
