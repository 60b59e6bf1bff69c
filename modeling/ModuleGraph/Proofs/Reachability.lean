import ModuleGraph.Proofs.LoadedGraph

/-!
# What the inputs of a graph lead to

The inputs of a graph are the packages of the roots and of the dependencies beside them.  Steps lead
from modules along all of their edges, under whatever conditions, and from products to their
members.  The reachable modules and products of a loaded graph are what these steps lead to from the
modules and products of the inputs, and nothing else.

## Key results

- `Source.BuiltFrom.mem_reachableModules`, `Source.BuiltFrom.mem_reachableProducts`: what a graph
  lists as reachable
- `Source.load_reachable_iff`: the reachable sets between the inputs and the whole graph
-/

namespace ModuleGraph

open Relation (ReflTransGen)

namespace Source

/-- A module or product of an input leads to the node in any number of steps, whatever the
conditions of the edges are. -/
def Reaches (s : Source) (g : Graph) (x : Node) : Prop :=
  ∃ p ∈ g.packages.toList, s.catalog.IsInput s.mirrors s.rootDependencies p.identity ∧
    ∃ a ∈ p.nodes, ReflTransGen (g.lookup.Leads none) a x

namespace BuiltFrom

variable {s : Source} {g : Graph} {parts : Parts} (h : s.BuiltFrom g parts)
  (hnames : g.DistinctNames)
include h hnames

/-- Whatever the inputs lead to is a node of the graph. -/
theorem mem_nodes_of_reaches {x : Node} (hx : s.Reaches g x) : x ∈ g.lookup.nodes := by
  obtain ⟨p, hp, -, a, ha, hwalk⟩ := hx
  have hstart : a ∈ g.lookup.nodes := (h.mem_nodes hnames).2 ⟨p, hp, ha⟩
  exact Lookup.mem_nodes_of_leads hstart hwalk

/-- The modules and products that a graph lists as reachable are those that the inputs lead to. -/
theorem exists_reached :
    ∃ nodes : List Node, g.reachableModules = KeyedSet.ofList (nodes.filterMap Node.module?) ∧
      g.reachableProducts = KeyedSet.ofList (nodes.filterMap Node.product?) ∧
      ∀ x, x ∈ nodes ↔ s.Reaches g x := by
  obtain ⟨nodes, hclosure, hmodules, hproducts⟩ := h.madeOf.reached
  have hstarts : ∀ x ∈ ((s.inputs parts.discovery).filterMap g.packages.find?).flatMap
      Package.nodes, x ∈ g.lookup.nodes := by
    intro x hx
    obtain ⟨p, hp, hxp⟩ := List.mem_flatMap.1 hx
    exact (h.mem_nodes hnames).2 ⟨p, (h.mem_inputs.1 hp).1, hxp⟩
  -- The closure that was taken is that of an acyclic graph, so it lists what the starts lead to.
  obtain ⟨nodes', hclosure', hlists⟩ := (h.acyclic hnames).closure_lists none hstarts
  have hsame : nodes' = nodes := Except.ok.inj (hclosure'.symm.trans hclosure)
  subst hsame
  refine ⟨nodes', hmodules, hproducts, fun x => (hlists.mem x).trans ?_⟩
  simp only [Reaches, List.mem_flatMap, h.mem_inputs]
  constructor
  · rintro ⟨a, ⟨p, ⟨hp, hinput⟩, ha⟩, hwalk⟩
    exact ⟨p, hp, hinput, a, ha, hwalk⟩
  · rintro ⟨p, hp, hinput, a, ha, hwalk⟩
    exact ⟨a, ⟨p, ⟨hp, hinput⟩, ha⟩, hwalk⟩

/-- A module is listed as reachable exactly if the inputs lead to it. -/
theorem mem_reachableModules {m : Module} :
    m ∈ g.reachableModules.toList ↔ s.Reaches g (.module m) := by
  obtain ⟨nodes, hmodules, -, hmem⟩ := h.exists_reached hnames
  -- Ids are distinct in the whole graph, so no module takes the place of another.
  have hall : ∀ n ∈ nodes.filterMap Node.module?, n ∈ g.lookup.modules.toList := by
    intro n hn
    have hreached := (hmem _).1 (Lookup.mem_filterMap_module?.1 hn)
    exact Lookup.module_mem_nodes.1 (h.mem_nodes_of_reaches hnames hreached)
  rw [hmodules, KeyedSet.mem_ofList_of_subset hall, Lookup.mem_filterMap_module?, hmem]

/-- A product is listed as reachable exactly if the inputs lead to it. -/
theorem mem_reachableProducts {q : Product} :
    q ∈ g.reachableProducts.toList ↔ s.Reaches g (.product q) := by
  obtain ⟨nodes, -, hproducts, hmem⟩ := h.exists_reached hnames
  have hall : ∀ r ∈ nodes.filterMap Node.product?, r ∈ g.lookup.products.toList := by
    intro r hr
    have hreached := (hmem _).1 (Lookup.mem_filterMap_product?.1 hr)
    exact Lookup.product_mem_nodes.1 (h.mem_nodes_of_reaches hnames hreached)
  rw [hproducts, KeyedSet.mem_ofList_of_subset hall, Lookup.mem_filterMap_product?, hmem]

end BuiltFrom

/-- Where names do not repeat in a package, the reachable modules and products of a loaded graph are
exactly those that the inputs lead to.  They are part of the graph, and every input is part of
them. -/
theorem load_reachable_iff {s : Source} {g : Graph} (h : s.load.result = .ok g)
    (hnames : g.DistinctNames) :
    (∀ m, m ∈ g.reachableModules.toList ↔ s.Reaches g (.module m)) ∧
      (∀ q, q ∈ g.reachableProducts.toList ↔ s.Reaches g (.product q)) ∧
      (∀ m ∈ g.reachableModules.toList, m ∈ g.allModules.toList) ∧
      (∀ q ∈ g.reachableProducts.toList, q ∈ g.allProducts.toList) ∧
      ∀ id, s.catalog.IsInput s.mirrors s.rootDependencies id →
        ∃ p ∈ g.packages.toList, p.identity = id ∧
          (∀ m ∈ p.modules, m ∈ g.reachableModules.toList) ∧
          ∀ q ∈ p.products, q ∈ g.reachableProducts.toList := by
  obtain ⟨parts, hbuilt⟩ := exists_builtFrom h
  have hmodules (m : Module) := hbuilt.mem_reachableModules hnames (m := m)
  have hproducts (q : Product) := hbuilt.mem_reachableProducts hnames (q := q)
  refine ⟨hmodules, hproducts, fun m hm => ?_, fun q hq => ?_, fun id hid => ?_⟩
  · have hnode := hbuilt.mem_nodes_of_reaches hnames ((hmodules m).1 hm)
    exact Lookup.module_mem_nodes.1 hnode
  · have hnode := hbuilt.mem_nodes_of_reaches hnames ((hproducts q).1 hq)
    exact Lookup.product_mem_nodes.1 hnode
  · obtain ⟨p, hp, rfl⟩ := hbuilt.exists_input hid
    -- The nodes of an input are reached in no steps.
    have hstart : ∀ x ∈ p.nodes, s.Reaches g x := fun x hx => ⟨p, hp, hid, x, hx, .refl⟩
    have hmodule : ∀ m ∈ p.modules, .module m ∈ p.nodes :=
      fun m hm => List.mem_append_left _ (List.mem_map_of_mem hm)
    have hproduct : ∀ q ∈ p.products, .product q ∈ p.nodes :=
      fun q hq => List.mem_append_right _ (List.mem_map_of_mem hq)
    exact ⟨p, hp, rfl, fun m hm => (hmodules m).2 (hstart _ (hmodule m hm)),
      fun q hq => (hproducts q).2 (hstart _ (hproduct q hq))⟩

end Source

/-- A root and a dependency beside it use the same product, the root on one platform only.  The
package of the product has a module that nothing uses. -/
def besideRoot : Source :=
  { Source.ofManifests
      [{ Manifest.bare (.root ⟨"app"⟩) "App" with
          modules := [⟨"App", .library, none, [⟨.product "Kit" (some "kit") KeyedSet.empty,
            some ⟨some ["linux"], none, none⟩⟩]⟩]
          dependencies := [.onRegistry "kit" none] },
        { Manifest.bare (.registry "kit") "Kit" with
          modules := [⟨"Core", .library, none, []⟩, ⟨"Idle", .library, none, []⟩,
            ⟨"Kit", .library, none, [⟨.module "Core", none⟩]⟩]
          products := [⟨"Kit", .library, ["Kit"]⟩] },
        usingPackages (.registry "side") "Side" [("kit", "Kit")]] with
    rootDependencies := [.onRegistry "side" none] }

/-- A module is reached through a product and under a condition, another one of the same package is
not, and a package beside the root is an input. -/
theorem load_reachable_iff_besideRoot :
    ∃ g core idle, besideRoot.load.result = .ok g ∧ g.DistinctNames ∧
      besideRoot.Reaches g (.module core) ∧ core.name = "Core" ∧
      idle ∈ g.allModules.toList ∧ ¬ besideRoot.Reaches g (.module idle) ∧
      ∃ p ∈ g.packages.toList, p.displayName = "Side" ∧
        ∀ m ∈ p.modules, m ∈ g.reachableModules.toList := by
  have hloads : (besideRoot.load.result.toOption.any fun g => decide (g.DistinctNames ∧
      (∃ m ∈ g.reachableModules.toList, m.name = "Core") ∧
      (∃ m ∈ g.allModules.toList, m ∉ g.reachableModules.toList) ∧
      ∀ p ∈ g.packages.toList, p.identity = ⟨"side"⟩ → p.displayName = "Side")) = true := by
    decide +kernel
  have hinput : besideRoot.catalog.IsInput besideRoot.mirrors besideRoot.rootDependencies
      ⟨"side"⟩ := .inr (by decide +kernel)
  obtain ⟨g, h, hg⟩ := Except.exists_ok_of_any hloads
  obtain ⟨hnames, ⟨core, hcore, hname⟩, ⟨idle, hidle, hnot⟩, hside⟩ := of_decide_eq_true hg
  obtain ⟨hmodules, -, -, -, hinputs⟩ := Source.load_reachable_iff h hnames
  obtain ⟨p, hp, hid, hall, -⟩ := hinputs _ hinput
  exact ⟨g, core, idle, h, hnames, (hmodules core).1 hcore, hname, hidle,
    fun hreach => hnot ((hmodules idle).2 hreach), p, hp, hside p hp hid, hall⟩

end ModuleGraph
