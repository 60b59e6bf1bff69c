import ModuleGraph.Graph.Query
import ModuleGraph.Proofs.Reachability

/-!
# Questions for one build environment

What a module depends on is listed anew for every environment, along the edges that can be followed
there.  No listing meets a cycle: a step in an environment is a step, and a loaded graph has no
module that leads back to itself.  For the same reason, what the root packages lead to in an
environment is among the reachable modules, which are found without one.

## Key results

- `Source.BuiltFrom.exists_recursive`: the dependencies of a module are listed in order
- `Source.BuiltFrom.exists_isInRoots`: whether the root packages lead to a module
- `Source.load_answers`: both questions are answered for every module and environment
-/

namespace ModuleGraph

open Relation (ReflTransGen TransGen)

namespace Graph

/-- A module of the graph with this id leads to the node in an environment, in one step or more. -/
def DependsIn (g : Graph) (env : Environment) (id : ModuleId) (x : Node) : Prop :=
  ∃ m ∈ g.allModules.toList, m.id = id ∧ TransGen (g.lookup.Leads (some env)) (.module m) x

/-- A module or product of a root package leads to a module with this id in an environment, in any
number of steps. -/
def RootsReach (g : Graph) (env : Environment) (id : ModuleId) : Prop :=
  ∃ p ∈ g.packages.toList, p.isRoot = true ∧ ∃ a ∈ p.nodes, ∃ m : Module, m.id = id ∧
    ReflTransGen (g.lookup.Leads (some env)) a (.module m)

end Graph

/-- A list of nodes does not depend on how the property of its nodes is put. -/
theorem Lookup.Lists.congr {l : Lookup} {env : Option Environment} {p q : Node → Prop}
    {nodes : List Node} (h : l.Lists env p nodes) (hpq : ∀ x, p x ↔ q x) : l.Lists env q nodes where
  mem := fun x => (h.mem x).trans (hpq x)
  once := h.once
  ordered := h.ordered

/-- Where no node has the property, the list is empty. -/
theorem Lookup.Lists.nil {l : Lookup} {env : Option Environment} {p : Node → Prop}
    (hp : ∀ x, ¬ p x) : l.Lists env p [] where
  mem := fun x => iff_of_false List.not_mem_nil (hp x)
  once := List.nodup_nil
  ordered := by simp

/-- What the nodes one step behind a module lead to is what the module leads to in one step or
more. -/
theorem Lookup.exists_successor_iff {l : Lookup} {env : Option Environment} {m : Module}
    {x : Node} :
    (∃ a ∈ l.successors env (.module m), ReflTransGen (l.Leads env) a x) ↔
      TransGen (l.Leads env) (.module m) x := by
  rw [TransGen.head'_iff]
  simp only [Lookup.mem_successors]

/-- What the id of a module depends on is what the module leads to. -/
theorem Graph.dependsIn_iff {g : Graph} {env : Environment} {m : Module} {x : Node}
    (hm : m ∈ g.allModules.toList) :
    g.DependsIn env m.id x ↔ TransGen (g.lookup.Leads (some env)) (.module m) x := by
  constructor
  · rintro ⟨n, hn, hid, hwalk⟩
    exact KeyedSet.key_inj hn hm hid ▸ hwalk
  · exact fun hwalk => ⟨m, hm, rfl, hwalk⟩

namespace Source.BuiltFrom

variable {s : Source} {g : Graph} {parts : Parts} (h : s.BuiltFrom g parts)
  (hnames : g.DistinctNames)
include h hnames

/-- No module depends on itself. -/
theorem id_ne_of_dependsIn {env : Environment} {id : ModuleId} {x : Node}
    (hx : g.DependsIn env id x) : x.id ≠ .module id := by
  obtain ⟨m, hm, rfl, hwalk⟩ := hx
  intro hself
  obtain ⟨b, -, hstep⟩ := TransGen.tail'_iff.1 hwalk
  -- A node with the id of the module is the module, which does not lead back to itself.
  have hsame : x = .module m :=
    Lookup.eq_of_id_eq hstep.mem_nodes (Lookup.module_mem_nodes.2 hm) hself
  rw [hsame] at hwalk
  exact (h.acyclic hnames).not_leads_back hm hwalk

/-- The dependencies of a module in an environment are listed in order, and the module is not among
them. -/
theorem exists_recursive (id : ModuleId) (env : Environment) :
    ∃ nodes, g.recursive id env = .ok nodes ∧
      g.lookup.Lists (some env) (g.DependsIn env id) nodes ∧
      ∀ x ∈ nodes, x.id ≠ .module id := by
  have hself (nodes : List Node) (hlists : g.lookup.Lists (some env) (g.DependsIn env id) nodes) :
      ∀ x ∈ nodes, x.id ≠ .module id :=
    fun x hx => h.id_ne_of_dependsIn hnames ((hlists.mem x).1 hx)
  unfold Graph.recursive
  cases hfind : g.module? id with
  | none =>
    -- No module has the id, so it depends on nothing.
    have hnone : ∀ x, ¬ g.DependsIn env id x := by
      rintro x ⟨m, hm, hid, -⟩
      exact KeyedSet.find?_eq_none_iff.1 hfind m hm hid
    have hlists : g.lookup.Lists (some env) (g.DependsIn env id) [] := .nil hnone
    exact ⟨[], rfl, hlists, hself [] hlists⟩
  | some m =>
    obtain ⟨hm, hid⟩ := KeyedSet.find?_eq_some_iff.1 hfind
    have hstarts : ∀ x ∈ g.lookup.successors (some env) (.module m), x ∈ g.lookup.nodes :=
      fun x hx => Lookup.mem_nodes_of_successor hx
    obtain ⟨nodes, hclosure, hreached⟩ := (h.acyclic hnames).closure_lists (some env) hstarts
    have hdepends (x : Node) : (∃ a ∈ g.lookup.successors (some env) (.module m),
        ReflTransGen (g.lookup.Leads (some env)) a x) ↔ g.DependsIn env id x := by
      rw [Lookup.exists_successor_iff, ← Graph.dependsIn_iff hm, show m.id = id from hid]
    have hlists := hreached.congr hdepends
    exact ⟨nodes, hclosure, hlists, hself nodes hlists⟩

/-- It is decided for every module whether the root packages lead to it in an environment. -/
theorem exists_isInRoots (id : ModuleId) (env : Environment) :
    ∃ answer, g.isInRoots id env = .ok answer ∧ (answer = true ↔ g.RootsReach env id) := by
  have hstarts : ∀ x ∈ g.rootPackages.toList.flatMap Package.nodes, x ∈ g.lookup.nodes := by
    intro x hx
    obtain ⟨p, hp, hxp⟩ := List.mem_flatMap.1 hx
    exact (h.mem_nodes hnames).2 ⟨p, (h.mem_rootPackages.1 hp).1, hxp⟩
  -- No walk returns in a loaded graph, so the closure from the nodes of the roots is found.
  obtain ⟨reached, hclosure, hlists⟩ := (h.acyclic hnames).closure_lists (some env) hstarts
  refine ⟨_, by rw [Graph.isInRoots, hclosure]; rfl, ?_⟩
  rw [List.any_eq_true]
  constructor
  · rintro ⟨x, hx, hid⟩
    obtain ⟨a, ha, hwalk⟩ := (hlists.mem x).1 hx
    obtain ⟨p, hp, hap⟩ := List.mem_flatMap.1 ha
    obtain ⟨hpackage, hroot⟩ := h.mem_rootPackages.1 hp
    cases x with
    | module m =>
      have hm : m.id = id := NodeId.module.inj (beq_iff_eq.1 hid)
      exact ⟨p, hpackage, hroot, a, hap, m, hm, hwalk⟩
    -- Only a module has the id of a module.
    | product q => exact nomatch beq_iff_eq.1 hid
  · rintro ⟨p, hp, hroot, a, ha, m, rfl, hwalk⟩
    have hstart : a ∈ g.rootPackages.toList.flatMap Package.nodes :=
      List.mem_flatMap.2 ⟨p, h.mem_rootPackages.2 ⟨hp, hroot⟩, ha⟩
    have hx := (hlists.mem (.module m)).2 ⟨a, hstart, hwalk⟩
    exact ⟨.module m, hx, beq_iff_eq.2 rfl⟩

/-- What the root packages lead to in an environment is reachable. -/
theorem contains_of_rootsReach {env : Environment} {id : ModuleId} (hid : g.RootsReach env id) :
    g.reachableModules.contains id = true := by
  obtain ⟨p, hp, hroot, a, ha, m, hm, hwalk⟩ := hid
  have hinput : s.catalog.IsInput s.mirrors s.rootDependencies p.identity := by
    rw [(h.manifest hp).2, Catalog.isRoot, List.contains_iff_mem] at hroot
    exact .inl hroot
  have hsteps : g.lookup.Leads (some env) ≤ g.lookup.Leads none := fun _ _ hstep => hstep.anywhere
  have hreach : s.Reaches g (.module m) :=
    ⟨p, hp, hinput, a, ha, ReflTransGen.mono hsteps a (.module m) hwalk⟩
  exact KeyedSet.contains_iff.2 ⟨m, (h.mem_reachableModules hnames).2 hreach, hm⟩

end Source.BuiltFrom

/-- Where names do not repeat in a package, a loaded graph answers for every module and environment
what the module depends on and whether the root packages lead to it.  The dependencies are listed
once each, every node before what it leads to, and the module itself is not among them. -/
theorem Source.load_answers {s : Source} {g : Graph} (h : s.load.result = .ok g)
    (hnames : g.DistinctNames) (id : ModuleId) (env : Environment) :
    (∃ nodes, g.recursive id env = .ok nodes ∧
        g.lookup.Lists (some env) (g.DependsIn env id) nodes ∧
        ∀ x ∈ nodes, x.id ≠ .module id) ∧
      ∃ answer, g.isInRoots id env = .ok answer ∧
        (answer = true ↔ g.RootsReach env id) ∧
        (answer = true → g.reachableModules.contains id = true) := by
  obtain ⟨parts, hbuilt⟩ := exists_builtFrom h
  obtain ⟨answer, hanswer, hiff⟩ := hbuilt.exists_isInRoots hnames id env
  exact ⟨hbuilt.exists_recursive hnames id env, answer, hanswer, hiff,
    fun htrue => hbuilt.contains_of_rootsReach hnames (hiff.1 htrue)⟩

/-- Of what the root uses on one platform only, the environment decides whether it is a dependency;
on that platform, a module behind the product that is used is one. -/
theorem load_answers_besideRoot :
    ∃ g, besideRoot.load.result = .ok g ∧ g.DistinctNames ∧
      (∀ x, ¬ g.DependsIn ⟨"macos", none⟩ ⟨⟨"app"⟩, "App"⟩ x) ∧
      (∃ core : Module, core.name = "Core" ∧
        g.DependsIn ⟨"linux", none⟩ ⟨⟨"app"⟩, "App"⟩ (.module core)) ∧
      g.RootsReach ⟨"linux", none⟩ ⟨⟨"kit"⟩, "Core"⟩ ∧
      ¬ g.RootsReach ⟨"macos", none⟩ ⟨⟨"kit"⟩, "Core"⟩ := by
  -- What the queries answer is evaluated; what that means for the graph is read off below.
  have hloads : (besideRoot.load.result.toOption.any fun g => decide g.DistinctNames &&
      decide (g.recursive ⟨⟨"app"⟩, "App"⟩ ⟨"macos", none⟩ = .ok []) &&
      ((g.recursive ⟨⟨"app"⟩, "App"⟩ ⟨"linux", none⟩).toOption.any fun nodes =>
        (nodes.filterMap Node.module?).any fun m => m.name == "Core") &&
      decide (g.isInRoots ⟨⟨"kit"⟩, "Core"⟩ ⟨"linux", none⟩ = .ok true) &&
      decide (g.isInRoots ⟨⟨"kit"⟩, "Core"⟩ ⟨"macos", none⟩ = .ok false)) = true := by
    decide +kernel
  obtain ⟨g, h, hg⟩ := Except.exists_ok_of_any hloads
  simp only [Bool.and_eq_true, decide_eq_true_eq] at hg
  obtain ⟨⟨⟨⟨hnames, hmacos⟩, hlinux⟩, hin⟩, hnotIn⟩ := hg
  have happ (env : Environment) := (Source.load_answers h hnames ⟨⟨"app"⟩, "App"⟩ env).1
  have hcore (env : Environment) := (Source.load_answers h hnames ⟨⟨"kit"⟩, "Core"⟩ env).2
  refine ⟨g, h, hnames, fun x hx => ?_, ?_, ?_, fun hreach => ?_⟩
  · -- On macos the list is empty, so nothing is a dependency.
    obtain ⟨nodes, hnodes, hlists, -⟩ := happ ⟨"macos", none⟩
    have hempty : nodes = [] := Except.ok.inj (hnodes.symm.trans hmacos)
    have hmem := (hlists.mem x).2 hx
    rw [hempty] at hmem
    exact nomatch hmem
  · -- On linux the module behind the product is listed.
    obtain ⟨nodes, hnodes, hlists, -⟩ := happ ⟨"linux", none⟩
    obtain ⟨nodes', hnodes', hany⟩ := Except.exists_ok_of_any hlinux
    have hsame : nodes' = nodes := Except.ok.inj (hnodes'.symm.trans hnodes)
    obtain ⟨m, hm, hname⟩ := List.any_eq_true.1 hany
    have hmem := Lookup.mem_filterMap_module?.1 hm
    exact ⟨m, beq_iff_eq.1 hname, (hlists.mem _).1 (hsame ▸ hmem)⟩
  · obtain ⟨answer, hanswer, hiff, -⟩ := hcore ⟨"linux", none⟩
    exact hiff.1 (Except.ok.inj (hanswer.symm.trans hin))
  · obtain ⟨answer, hanswer, hiff, -⟩ := hcore ⟨"macos", none⟩
    have hfalse : answer = false := Except.ok.inj (hanswer.symm.trans hnotIn)
    have htrue := hiff.2 hreach
    rw [hfalse] at htrue
    exact nomatch htrue

end ModuleGraph
