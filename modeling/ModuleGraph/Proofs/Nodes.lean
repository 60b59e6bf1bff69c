import ModuleGraph.Graph
import ModuleGraph.Proofs.Digraph.DistinctKeys
import ModuleGraph.Proofs.KeyedSet
import Mathlib.Logic.Relation

/-!
# Cycles through modules and products

Two graphs are made from one lookup: in the one, products are nodes between modules, in the other an
edge to a product leads to its members at once.  A node of the former `standsFor` modules of the
latter, a module for itself and a product for its members, and with that every walk of the one is a
walk of the other.  No cycle consists of products alone, since they lead to modules only.  So there
is a cycle through modules and products only if there is one through modules.

## Key results

- `Lookup.mem_modulesBehind`: both graphs follow edges to the same nodes
- `Lookup.mem_successors_iff_uses`, `Lookup.onCycle_iff`: what the graph of modules follows
- `Lookup.exists_reaches`: a walk through modules and products is a walk through modules
- `Lookup.closure_ok`: without a cycle of modules, everything that can be reached can be listed
-/

namespace ModuleGraph.Lookup

/-- The modules that stand for a node in the graph of modules. -/
def standsFor (l : Lookup) : Node → List Module
  | .module m => [m]
  | .product p => l.members p

variable {l : Lookup} {env : Option Environment} {starts : List Node}

/-- A module uses another one that can be looked up: it names the module, or a product that can be
looked up and names it. -/
def Uses (l : Lookup) (m n : Module) : Prop :=
  n ∈ l.modules.toList ∧ ∃ e ∈ m.edges, e.target = .module n.id ∨
    ∃ p ∈ l.products.toList, e.target = .product p.id ∧ n.id ∈ p.modules

/-- A walk along uses into a cycle and once around it. -/
structure IsWalk (l : Lookup) (w : Cycle Module) : Prop where
  within : ∀ m ∈ w.path ++ w.cycle, m ∈ l.modules.toList
  follows : w.closedWalk.IsChain l.Uses
  distinct : ((w.path ++ w.cycle).map Module.id).Nodup
  closed : w.cycle ≠ []

/-! ### Nodes and edges -/

/-- The nodes of a lookup are its modules and products. -/
@[simp] theorem module_mem_nodes {m : Module} : .module m ∈ l.nodes ↔ m ∈ l.modules.toList := by
  simp [nodes]

@[simp] theorem product_mem_nodes {p : Product} :
    .product p ∈ l.nodes ↔ p ∈ l.products.toList := by
  simp [nodes]

/-- The modules among some nodes. -/
theorem mem_filterMap_module? {nodes : List Node} {m : Module} :
    m ∈ nodes.filterMap Node.module? ↔ .module m ∈ nodes := by
  constructor
  · intro hm
    obtain ⟨x, hx, heq⟩ := List.mem_filterMap.1 hm
    cases x with
    | module n => exact Option.some.inj heq ▸ hx
    | product p => exact nomatch heq
  · exact fun hm => List.mem_filterMap.2 ⟨_, hm, rfl⟩

/-- The products among some nodes. -/
theorem mem_filterMap_product? {nodes : List Node} {p : Product} :
    p ∈ nodes.filterMap Node.product? ↔ .product p ∈ nodes := by
  constructor
  · intro hp
    obtain ⟨x, hx, heq⟩ := List.mem_filterMap.1 hp
    cases x with
    | module m => exact nomatch heq
    | product q => exact Option.some.inj heq ▸ hx
  · exact fun hp => List.mem_filterMap.2 ⟨_, hp, rfl⟩

/-- The members of a product are the modules that it names. -/
theorem mem_members {p : Product} {m : Module} :
    m ∈ l.members p ↔ m ∈ l.modules.toList ∧ m.id ∈ p.modules :=
  KeyedSet.mem_filterMap_find?

/-- An edge points at the module with the id that it has. -/
theorem target?_eq_module {e : Edge} {m : Module} :
    l.target? e = some (.module m) ↔ m ∈ l.modules.toList ∧ e.target = .module m.id := by
  unfold target?
  split
  · next id heq => simp [heq, KeyedSet.find?_eq_some_iff, eq_comm (a := id)]
  · next id heq => simp [heq]

/-- An edge points at the product with the id that it has. -/
theorem target?_eq_product {e : Edge} {p : Product} :
    l.target? e = some (.product p) ↔ p ∈ l.products.toList ∧ e.target = .product p.id := by
  unfold target?
  split
  · next id heq => simp [heq]
  · next id heq => simp [heq, KeyedSet.find?_eq_some_iff, eq_comm (a := id)]

/-- What an edge points at is a node of the lookup. -/
theorem mem_nodes_of_target? {e : Edge} {n : Node} (h : l.target? e = some n) : n ∈ l.nodes := by
  cases n with
  | module m => exact module_mem_nodes.2 (target?_eq_module.1 h).1
  | product p => exact product_mem_nodes.2 (target?_eq_product.1 h).1

/-- An edge leads to the modules that stand for what it points at. -/
theorem mem_modulesBehind {e : Edge} {m : Module} :
    m ∈ l.modulesBehind e ↔ ∃ n, l.target? e = some n ∧ m ∈ l.standsFor n := by
  unfold modulesBehind target?
  split
  · next id _ => cases l.modules.find? id <;> simp [standsFor]
  · next id _ => cases hfind : l.products.find? id <;> simp [standsFor]

/-- What a node stands for has been looked up, unless it is the node itself. -/
theorem mem_modules_of_standsFor {n : Node} (hn : n ∈ l.nodes) {m : Module}
    (hm : m ∈ l.standsFor n) : m ∈ l.modules.toList := by
  cases n with
  | module m' =>
    rw [List.mem_singleton.1 hm]
    exact module_mem_nodes.1 hn
  | product p => exact (mem_members.1 hm).1

/-- Where a module leads among the modules. -/
theorem mem_successors_moduleGraph {m n : Module} :
    n ∈ l.moduleGraph.successors m ↔ ∃ e ∈ m.edges, n ∈ l.modulesBehind e :=
  List.mem_flatMap

/-- What a module leads to, along any edges, stands for modules that it leads to. -/
theorem standsFor_of_module {m n : Module} {x : Node} (hx : x ∈ l.successors env (.module m))
    (hn : n ∈ l.standsFor x) : n ∈ l.moduleGraph.successors m := by
  obtain ⟨e, he, htarget⟩ := List.mem_filterMap.1 hx
  have hedge : e ∈ m.edges := by
    unfold edgesIn at he
    split at he
    · exact he
    · exact (List.mem_filter.1 he).1
  exact mem_successors_moduleGraph.2 ⟨e, hedge, mem_modulesBehind.2 ⟨x, htarget, hn⟩⟩

/-- What a product leads to is one of its members. -/
theorem exists_member_of_product (env : Option Environment) {p : Product} {x : Node}
    (hx : x ∈ l.successors env (.product p)) : ∃ m ∈ l.members p, x = .module m := by
  obtain ⟨m, hm, rfl⟩ := List.mem_map.1 hx
  exact ⟨m, hm, rfl⟩

/-- Whatever a node leads to is a node of the lookup. -/
theorem mem_nodes_of_successor {x y : Node} (hy : y ∈ l.successors env x) : y ∈ l.nodes := by
  cases x with
  | module m =>
    obtain ⟨e, -, htarget⟩ := List.mem_filterMap.1 hy
    exact mem_nodes_of_target? htarget
  | product p =>
    obtain ⟨m, hm, rfl⟩ := exists_member_of_product env hy
    exact module_mem_nodes.2 (mem_members.1 hm).1

/-! ### Both graphs have keys of their own -/

/-- No two modules of a lookup have the same id. -/
theorem distinctKeys_moduleGraph (l : Lookup) : l.moduleGraph.DistinctKeys :=
  fun _ ha _ hb h => KeyedSet.key_inj ha hb h

/-- Modules lead to modules of the lookup. -/
theorem covers_moduleGraph (l : Lookup) : l.moduleGraph.Covers l.modules.toList where
  starts := fun _ ha => ha
  successors := by
    intro m _ n hn
    obtain ⟨e, -, hbehind⟩ := mem_successors_moduleGraph.1 hn
    obtain ⟨x, htarget, hx⟩ := mem_modulesBehind.1 hbehind
    exact mem_modules_of_standsFor (mem_nodes_of_target? htarget) hx

/-- No two modules or products of a lookup have the same id. -/
theorem eq_of_id_eq {x y : Node} (hx : x ∈ l.nodes) (hy : y ∈ l.nodes) (h : x.id = y.id) :
    x = y := by
  cases x with
  | module m =>
    cases y with
    | module n =>
      rw [KeyedSet.key_inj (module_mem_nodes.1 hx) (module_mem_nodes.1 hy) (NodeId.module.inj h)]
    | product q => exact nomatch h
  | product p =>
    cases y with
    | module n => exact nomatch h
    | product q =>
      rw [KeyedSet.key_inj (product_mem_nodes.1 hx) (product_mem_nodes.1 hy)
        (NodeId.product.inj h)]

/-- The nodes of the graph are those of the lookup if the start nodes are among them. -/
theorem mem_nodes_nodeGraph (hstarts : ∀ x ∈ starts, x ∈ l.nodes) {x : Node} :
    x ∈ (l.nodeGraph env starts).nodes ↔ x ∈ l.nodes := by
  show x ∈ starts ++ l.nodes ↔ x ∈ l.nodes
  rw [List.mem_append]
  exact ⟨fun h => h.elim (hstarts x) id, .inr⟩

/-- No two nodes of the graph have the same id if the start nodes are those of the lookup. -/
theorem distinctKeys_nodeGraph (env : Option Environment) (hstarts : ∀ x ∈ starts, x ∈ l.nodes) :
    (l.nodeGraph env starts).DistinctKeys := by
  intro x hx y hy h
  exact eq_of_id_eq ((mem_nodes_nodeGraph hstarts).1 hx) ((mem_nodes_nodeGraph hstarts).1 hy) h

/-- Nodes lead to nodes of the lookup. -/
theorem covers_nodeGraph (l : Lookup) (env : Option Environment) (starts : List Node) :
    (l.nodeGraph env starts).Covers starts where
  starts := fun _ hx => List.mem_append_left _ hx
  successors := fun _ _ _ hy => List.mem_append_right _ (mem_nodes_of_successor hy)

/-! ### Cycles of modules -/

/-- The graph of modules follows what modules use. -/
theorem mem_successors_iff_uses {m n : Module} :
    n ∈ l.moduleGraph.successors m ↔ l.Uses m n := by
  rw [mem_successors_moduleGraph]
  constructor
  · rintro ⟨e, he, hbehind⟩
    obtain ⟨x, htarget, hx⟩ := mem_modulesBehind.1 hbehind
    cases x with
    -- An edge to a module has that module behind it.
    | module n' =>
      obtain ⟨hn, heq⟩ := target?_eq_module.1 htarget
      rw [← List.mem_singleton.1 hx] at hn heq
      exact ⟨hn, e, he, .inl heq⟩
    -- An edge to a product has the members behind it.
    | product p =>
      obtain ⟨hp, heq⟩ := target?_eq_product.1 htarget
      obtain ⟨hn, hid⟩ := mem_members.1 hx
      exact ⟨hn, e, he, .inr ⟨p, hp, heq, hid⟩⟩
  · rintro ⟨hn, e, he, heq | ⟨p, hp, heq, hid⟩⟩
    · have htarget := target?_eq_module.2 ⟨hn, heq⟩
      exact ⟨e, he, mem_modulesBehind.2 ⟨_, htarget, List.mem_singleton_self n⟩⟩
    · have htarget := target?_eq_product.2 ⟨hp, heq⟩
      have hmember := mem_members.2 ⟨hn, hid⟩
      exact ⟨e, he, mem_modulesBehind.2 ⟨_, htarget, hmember⟩⟩

/-- Modules that can be reached are used, directly or not. -/
theorem reflTransGen_of_reaches {m n : Module} (h : l.moduleGraph.Reaches m n) :
    Relation.ReflTransGen l.Uses m n := by
  induction h with
  | refl m => exact .refl
  | step hs _ ih => exact .head (mem_successors_iff_uses.1 hs) ih

/-- A module that can be looked up is on a cycle exactly if it uses itself, directly or not. -/
theorem onCycle_iff {m : Module} (hm : m ∈ l.modules.toList) :
    l.moduleGraph.OnCycle m ↔ Relation.TransGen l.Uses m m := by
  constructor
  · rintro ⟨s, hs, n, hreach, hid⟩
    -- The node that is met again has the id of the module, so it is the module.
    have huses := mem_successors_iff_uses.1 hs
    have hn : n ∈ l.modules.toList := l.covers_moduleGraph.mem_nodes huses.1 hreach
    have hsame : n = m := KeyedSet.key_inj hn hm hid
    subst hsame
    exact .head' huses (reflTransGen_of_reaches hreach)
  · intro hcycle
    -- Whatever uses `m` has a first step on the way to `m`.
    have hwalk {x : Module} (hx : Relation.TransGen l.Uses x m) :
        ∃ s ∈ l.moduleGraph.successors x, l.moduleGraph.Reaches s m := by
      induction hx using Relation.TransGen.head_induction_on with
      | single hxm => exact ⟨m, mem_successors_iff_uses.2 hxm, .refl m⟩
      | head hxs _ ih =>
        obtain ⟨t, ht, hreach⟩ := ih
        exact ⟨_, mem_successors_iff_uses.2 hxs, .step ht hreach⟩
    obtain ⟨s, hs, hreach⟩ := hwalk hcycle
    exact ⟨s, hs, m, hreach, rfl⟩

/-- A lasso among the modules is a walk along uses. -/
theorem isWalk_of_isLasso {w : Cycle Module}
    (hw : l.moduleGraph.IsLasso l.modules.toList w) : l.IsWalk w where
  within := hw.mem_nodes l.covers_moduleGraph
  follows := by
    have hchain := l.distinctKeys_moduleGraph.isChain_closedWalk l.covers_moduleGraph hw
    exact hchain.imp fun m n hn => mem_successors_iff_uses.1 hn
  distinct := hw.distinct
  closed := hw.closed

/-! ### Walks without the products -/

/-- A walk through modules and products is, without the products, a walk through modules. -/
theorem exists_reaches {x y : Node} (h : (l.nodeGraph env starts).Reaches x y) {n : Module}
    (hn : n ∈ l.standsFor y) : ∃ m ∈ l.standsFor x, l.moduleGraph.Reaches m n := by
  -- Induction on the walk: a step from a module is one among the modules, a step from a product is
  -- none.
  induction h with
  | refl x => exact ⟨n, hn, .refl n⟩
  | @step x y' z hs _ ih =>
    obtain ⟨m', hm', hreach⟩ := ih hn
    cases x with
    | module m =>
      exact ⟨m, List.mem_singleton_self m, .step (standsFor_of_module hs hm') hreach⟩
    | product p =>
      obtain ⟨m, hm, rfl⟩ := exists_member_of_product env hs
      rw [List.mem_singleton.1 hm'] at hreach
      exact ⟨m, hm, hreach⟩

/-- A module on a cycle of modules and products is on a cycle of modules. -/
theorem onCycle_of_module {m : Module} (h : (l.nodeGraph env starts).OnCycle (.module m)) :
    l.moduleGraph.OnCycle m := by
  obtain ⟨y, hy, z, hyz, hid⟩ := h
  cases z with
  | module m' =>
    obtain ⟨n, hn, hreach⟩ := exists_reaches hyz (List.mem_singleton_self m')
    exact ⟨n, standsFor_of_module hy hn, m', hreach, NodeId.module.inj hid⟩
  | product p => exact nomatch hid

/-- A cycle through a product has one of its members. -/
theorem exists_onCycle_of_product (hstarts : ∀ x ∈ starts, x ∈ l.nodes) {p : Product}
    (hp : .product p ∈ l.nodes) (h : (l.nodeGraph env starts).OnCycle (.product p)) :
    ∃ m ∈ l.modules.toList, (l.nodeGraph env starts).OnCycle (.module m) := by
  obtain ⟨y, hy, z, hyz, hid⟩ := h
  obtain ⟨m, hm, rfl⟩ := exists_member_of_product env hy
  have hmem : m ∈ l.modules.toList := (mem_members.1 hm).1
  have hz : z ∈ l.nodes := by
    have hcov := covers_nodeGraph l env starts
    have hnodes := hcov.mem_nodes (List.mem_append_right _ (module_mem_nodes.2 hmem)) hyz
    exact (mem_nodes_nodeGraph hstarts).1 hnodes
  -- The walk comes back to the product itself, so it may as well begin behind it.
  have hback : z = .product p := eq_of_id_eq hz hp hid
  subst hback
  cases hyz with
  | step hs hrest => exact ⟨m, hmem, _, hs, .module m, hrest.trans (.step hy (.refl _)), rfl⟩

/-- If modules and products lead to a cycle, there is a cycle of modules. -/
theorem exists_onCycle (hstarts : ∀ x ∈ starts, x ∈ l.nodes) {x : Node} (hx : x ∈ starts)
    (h : (l.nodeGraph env starts).ReachesCycle x) :
    ∃ m ∈ l.modules.toList, l.moduleGraph.OnCycle m := by
  obtain ⟨y, hxy, hcycle⟩ := h
  have hcov := covers_nodeGraph l env starts
  have hy : y ∈ l.nodes := (mem_nodes_nodeGraph hstarts).1 (hcov.mem_nodes (hcov.starts x hx) hxy)
  cases y with
  | module m => exact ⟨m, module_mem_nodes.1 hy, onCycle_of_module hcycle⟩
  | product p =>
    obtain ⟨m, hm, hmodule⟩ := exists_onCycle_of_product hstarts hy hcycle
    exact ⟨m, hm, onCycle_of_module hmodule⟩

/-- If no module is on a cycle, everything that can be reached can be listed. -/
theorem closure_ok (env : Option Environment) (hstarts : ∀ x ∈ starts, x ∈ l.nodes)
    (h : ∀ m ∈ l.modules.toList, ¬ l.moduleGraph.OnCycle m) :
    ∃ reached, l.closure env starts = .ok reached := by
  have herror := (distinctKeys_nodeGraph env hstarts).sort_error_iff
    (covers_nodeGraph l env starts)
  unfold closure
  cases hsort : (l.nodeGraph env starts).sort starts with
  | ok sorted => exact ⟨sorted, rfl⟩
  | error e =>
    obtain ⟨x, hx, hcycle⟩ := herror.1 ⟨e, hsort⟩
    obtain ⟨m, hm, hmodule⟩ := exists_onCycle hstarts hx hcycle
    exact absurd hmodule (h m hm)

end ModuleGraph.Lookup
