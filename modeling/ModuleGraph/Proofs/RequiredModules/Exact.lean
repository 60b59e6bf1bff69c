import ModuleGraph.Proofs.Catalog
import ModuleGraph.Proofs.RequiredModules
import Mathlib.Logic.Relation

/-!
# Which modules products need

Products need their members, and whatever these depend on within the package.  The search for these
modules goes by names, which may be those of products or of nothing at all, and modules may depend
on each other in a cycle.  In a package whose modules have names of their own it finds exactly the
modules that can be reached, whatever names it comes across on the way, and each of them once.

## Key results

- `siblingName?_eq_some`: the name that a dependency leads to within the package
- `ModuleClosure.FoundOnce.next`: what is found in a step has a new name
- `nodup_requiredModules`: no module is required twice
- `LooksAt.needsModule`, `NeedsModule.looksAt`: names that are looked at, and modules that are
  needed
- `requiredModules_exact`: the required modules are the ones that the products need
-/

namespace ModuleGraph.Manifest

/-- A module of the package is a member of one of some products. -/
def HasMember (m : Manifest) (products : Names) (decl : ModuleDecl) : Prop :=
  decl ∈ m.modules ∧ ∃ p ∈ m.products, p.name ∈ products.toList ∧ decl.name ∈ p.modules

/-- A module has an enabled dependency on a module of the package, declared as one on a module or by
name. -/
def DependsWithin (m : Manifest) (traits : Names) (decl decl' : ModuleDecl) : Prop :=
  decl' ∈ m.modules ∧ ∃ d ∈ decl.dependencies, d.enabledBy traits = true ∧
    (d.target = .module decl'.name ∨ d.target = .byName decl'.name)

/-- Some products need a module: enabled dependencies lead to it from one of their members. -/
def NeedsModule (m : Manifest) (traits products : Names) (decl : ModuleDecl) : Prop :=
  ∃ member, m.HasMember products member ∧
    Relation.ReflTransGen (m.DependsWithin traits) member decl

/-- The modules that have been found have names of their own, which have been seen. -/
structure ModuleClosure.FoundOnce (s : ModuleClosure) : Prop where
  nodup : (s.found.map (·.name)).Nodup
  seen : ∀ decl ∈ s.found, decl.name ∈ s.seen

section
variable {m : Manifest} {traits products : Names} {s s' : ModuleClosure} {decl : ModuleDecl}
  {d : ModuleDependency} {name : String}

/-! ### Each module once -/

/-- A step that finds a module has taken a name that is new. -/
theorem ModuleClosure.FoundOnce.next (hs : s.FoundOnce) (h : m.requireNext traits s = .next s') :
    s'.FoundOnce := by
  obtain ⟨name, pending, -, hcase⟩ := requireNext_next h
  rcases hcase with ⟨-, rfl⟩ | ⟨-, -, rfl⟩ | ⟨decl, hnew, hdecl, rfl⟩
  · exact ⟨hs.nodup, hs.seen⟩
  · exact ⟨hs.nodup, fun e he => List.mem_cons_of_mem _ (hs.seen e he)⟩
  · obtain rfl : decl.name = name := name_of_module? hdecl
    -- A module that was found before has a name that was seen before.
    have hfresh : decl.name ∉ s.found.map (·.name) := by
      intro hmem
      obtain ⟨e, he, heq⟩ := List.mem_map.1 hmem
      exact hnew (heq ▸ hs.seen e he)
    refine ⟨List.nodup_cons.2 ⟨hfresh, hs.nodup⟩, fun e he => ?_⟩
    rcases List.mem_cons.1 he with rfl | he
    · exact List.mem_cons_self
    · exact List.mem_cons_of_mem _ (hs.seen e he)

/-- No two of the modules that products require have the same name. -/
theorem nodup_requiredModules (m : Manifest) (products traits : Names) :
    ((m.requiredModules (.only products) traits).map (·.name)).Nodup := by
  refine (m.requiredModules_ends products traits).post ModuleClosure.FoundOnce
    (fun found => (found.map (·.name)).Nodup) (fun _ _ hs hnext => hs.next hnext) ?_
    ⟨List.nodup_nil, fun _ hdecl => nomatch hdecl⟩
  intro s found hs hdone
  obtain ⟨-, rfl⟩ := requireNext_done hdone
  rw [List.map_reverse, List.nodup_reverse]
  exact hs.nodup

/-! ### Names and modules -/

/-- An enabled dependency that is on a module, or is declared by name, leads to that name. -/
theorem siblingName?_eq_some : siblingName? traits d = some name ↔
    d.enabledBy traits = true ∧ (d.target = .module name ∨ d.target = .byName name) := by
  unfold siblingName?
  rw [Option.ite_none_right_eq_some]
  refine and_congr_right fun _ => ?_
  cases d.target <;> simp

/-- Where names are distinct, the module that is found under a name is the one that has it. -/
theorem module?_eq_some_iff (hnames : (m.modules.map (·.name)).Nodup) :
    m.module? name = some decl ↔ decl ∈ m.modules ∧ decl.name = name :=
  List.find?_key_eq_some_iff hnames

/-- A module that is found under a name that is looked at is needed. -/
theorem LooksAt.needsModule (h : m.LooksAt traits products name)
    (hdecl : m.module? name = some decl) : m.NeedsModule traits products decl := by
  induction h generalizing decl with
  | member hname =>
    obtain rfl := name_of_module? hdecl
    exact ⟨decl, ⟨List.mem_of_find?_eq_some hdecl, mem_membersOf.1 hname⟩, .refl⟩
  | sibling _ hfrom hd hname ih =>
    obtain rfl := name_of_module? hdecl
    obtain ⟨member, hmember, hlead⟩ := ih hfrom
    exact ⟨member, hmember, hlead.tail
      ⟨List.mem_of_find?_eq_some hdecl, _, hd, siblingName?_eq_some.1 hname⟩⟩

/-- Where names are distinct, the name of a module that is needed is looked at. -/
theorem NeedsModule.looksAt (hnames : (m.modules.map (·.name)).Nodup)
    (h : m.NeedsModule traits products decl) :
    decl ∈ m.modules ∧ m.LooksAt traits products decl.name := by
  obtain ⟨member, ⟨hmember, hproduct⟩, hlead⟩ := h
  induction hlead with
  | refl => exact ⟨hmember, .member (mem_membersOf.2 hproduct)⟩
  | tail _ hstep ih =>
    -- The module before the last one is found under its own name, so its dependencies are followed.
    obtain ⟨hfrom, hlooks⟩ := ih
    obtain ⟨hdecl, d, hd, hto⟩ := hstep
    have hfound := (module?_eq_some_iff hnames).2 ⟨hfrom, rfl⟩
    exact ⟨hdecl, .sibling hlooks hfound hd (siblingName?_eq_some.2 hto)⟩

/-- Where names are distinct, products require the modules that they need. -/
theorem mem_requiredModules_iff (hnames : (m.modules.map (·.name)).Nodup) :
    decl ∈ m.requiredModules (.only products) traits ↔ m.NeedsModule traits products decl := by
  rw [mem_requiredModules_only]
  constructor
  · rintro ⟨name, hlooks, hdecl⟩
    exact hlooks.needsModule hdecl
  · intro h
    obtain ⟨hdecl, hlooks⟩ := h.looksAt hnames
    exact ⟨decl.name, hlooks, (module?_eq_some_iff hnames).2 ⟨hdecl, rfl⟩⟩

end

/-- In a package whose modules have names of their own, the search for the modules that some
products require ends, whatever the modules depend on.  What it gives are the modules that the
products need, each of them once.  So a module is needed exactly if one of its name is required. -/
theorem requiredModules_exact (m : Manifest) (hnames : (m.modules.map (·.name)).Nodup)
    (products traits : Names) :
    Loop.Ends (m.requireNext traits) ⟨(m.membersOf products).reverse, [], []⟩
      (m.requiredModules (.only products) traits) ∧
    ((m.requiredModules (.only products) traits).map (·.name)).Nodup ∧
    (∀ decl, decl ∈ m.requiredModules (.only products) traits ↔
      m.NeedsModule traits products decl) ∧
    ∀ decl ∈ m.modules,
      (∃ needed ∈ m.requiredModules (.only products) traits, needed.name = decl.name) ↔
        m.NeedsModule traits products decl := by
  refine ⟨m.requiredModules_ends products traits, m.nodup_requiredModules products traits,
    fun decl => mem_requiredModules_iff hnames, fun decl hdecl => ?_⟩
  constructor
  · rintro ⟨needed, hneeded, hname⟩
    have hsame : needed = decl :=
      List.inj_on_of_nodup_map hnames (mem_modules_of_required hneeded) hdecl hname
    exact hsame ▸ (mem_requiredModules_iff hnames).1 hneeded
  · intro h
    exact ⟨decl, (mem_requiredModules_iff hnames).2 h, rfl⟩

/-- A package with two modules that depend on each other, on a product and on what is not declared.
One of them depends on `Secure` for a trait, and `Bench` on the other one. -/
def knottedKit : Manifest :=
  { bare (.registry "kit") "Kit" with
    modules := [⟨"Bench", .library, none, [⟨.module "Core", none⟩]⟩,
      ⟨"Core", .library, none,
        [⟨.byName "Net", none⟩, ⟨.module "Lost", none⟩,
          ⟨.product "Secure" (some "tools") KeyedSet.empty, none⟩]⟩,
      ⟨"Net", .library, none,
        [⟨.module "Core", none⟩, ⟨.byName "Log", none⟩,
          ⟨.module "Secure", some ⟨none, none, some (KeyedSet.ofList ["Tls"])⟩⟩]⟩,
      ⟨"Secure", .library, none, [⟨.module "Secure", none⟩]⟩]
    products := [⟨"Kit", .library, ["Core", "Core", "Gone"]⟩, ⟨"Bench", .library, ["Bench"]⟩]
    traits := [⟨"Tls", KeyedSet.empty, none⟩] }

/-- Without the trait the product needs the two modules that depend on each other, and with it also
the third one, but never the one that depends on them. -/
theorem requiredModules_exact_knottedKit :
    (knottedKit.modules.map (·.name)).Nodup ∧
    (knottedKit.requiredModules (.ofList ["Kit", "Other"]) KeyedSet.empty).map (·.name) =
      ["Core", "Net"] ∧
    (∀ decl ∈ knottedKit.modules, decl.name ∈ ["Core", "Net"] ↔
      knottedKit.NeedsModule KeyedSet.empty (KeyedSet.ofList ["Kit", "Other"]) decl) ∧
    ∀ decl ∈ knottedKit.modules, decl.name ≠ "Bench" ↔
      knottedKit.NeedsModule (KeyedSet.ofList ["Tls"]) (KeyedSet.ofList ["Kit"]) decl := by
  have hnames : (knottedKit.modules.map (·.name)).Nodup := by decide +kernel
  obtain ⟨-, -, -, hneeded⟩ := requiredModules_exact knottedKit hnames
    (KeyedSet.ofList ["Kit", "Other"]) KeyedSet.empty
  obtain ⟨-, -, -, hsecured⟩ := requiredModules_exact knottedKit hnames
    (KeyedSet.ofList ["Kit"]) (KeyedSet.ofList ["Tls"])
  refine ⟨hnames, by decide +kernel, fun decl hdecl => ?_, fun decl hdecl => ?_⟩
  · rw [← hneeded decl hdecl]
    revert decl
    decide +kernel
  · rw [← hsecured decl hdecl]
    revert decl
    decide +kernel

end ModuleGraph.Manifest
