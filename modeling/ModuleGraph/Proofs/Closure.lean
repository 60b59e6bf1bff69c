import ModuleGraph.Proofs.Nodes

/-!
# What modules and products lead to

From a module, a step leads along one of its edges to the module or product that the edge points at;
from a product, it leads to a member.  With an environment, only edges are followed whose conditions
hold in it, so there are fewer steps than without one.  If no module is on a cycle of modules, no
step comes back, and everything that some nodes lead to can be listed in order, in any environment.

## Key results

- `Lookup.mem_successors`: the graph of modules and products makes these steps and no others
- `Lookup.leads_of_closure`: whatever is listed is something that the start nodes lead to
- `Lookup.Acyclic.not_leads_back`: without cycles, no module leads back to itself
- `Lookup.Acyclic.closure_lists`: without cycles, everything that nodes lead to is listed in order
-/

namespace ModuleGraph

open Relation (ReflTransGen TransGen)

/-- Whether the edge can be followed: with an environment, all of its conditions hold there. -/
def Edge.OpenIn (env : Option Environment) (e : Edge) : Prop :=
  ∀ v, env = some v → ∀ c ∈ e.conditions, c.holdsIn v = true

namespace Lookup

/-- One step from a module or product to another one. -/
inductive Leads (l : Lookup) (env : Option Environment) : Node → Node → Prop
  /-- Along an edge to a module. -/
  | toModule {m n : Module} {e : Edge} (hedge : e ∈ m.edges) (hopen : e.OpenIn env)
      (hn : n ∈ l.modules.toList) (htarget : e.target = .module n.id) :
      Leads l env (.module m) (.module n)
  /-- Along an edge to a product. -/
  | toProduct {m : Module} {p : Product} {e : Edge} (hedge : e ∈ m.edges) (hopen : e.OpenIn env)
      (hp : p ∈ l.products.toList) (htarget : e.target = .product p.id) :
      Leads l env (.module m) (.product p)
  /-- From a product to one of its members. -/
  | toMember {p : Product} {n : Module} (hn : n ∈ l.modules.toList) (hmember : n.id ∈ p.modules) :
      Leads l env (.product p) (.module n)

/-- A list has exactly the nodes with a property, once each, and after a node everything that it
leads to. -/
structure Lists (l : Lookup) (env : Option Environment) (p : Node → Prop) (nodes : List Node) :
    Prop where
  mem : ∀ x, x ∈ nodes ↔ p x
  once : (nodes.map Node.id).Nodup
  ordered : ∀ above x below, nodes = above ++ x :: below →
    ∀ y, TransGen (l.Leads env) x y → y ∈ below

/-- No module is on a cycle of modules, whatever the conditions of the edges are. -/
def Acyclic (l : Lookup) : Prop := ∀ m ∈ l.modules.toList, ¬ l.moduleGraph.OnCycle m

variable {l : Lookup} {env : Option Environment} {starts : List Node} {x y : Node}

/-! ### Steps -/

/-- The edges of a module that are followed are those that can be. -/
theorem mem_edgesIn {m : Module} {e : Edge} :
    e ∈ edgesIn env m ↔ e ∈ m.edges ∧ e.OpenIn env := by
  cases env with
  | none =>
    have hopen : e.OpenIn none := fun v hv => nomatch hv
    simp [edgesIn, hopen]
  | some v =>
    have hopen : e.OpenIn (some v) ↔ e.activeIn v = true := by
      simp [Edge.OpenIn, Edge.activeIn]
    simp [edgesIn, hopen]

/-- What a node leads to is found by its edges or members. -/
theorem mem_successors : y ∈ l.successors env x ↔ l.Leads env x y := by
  constructor
  · intro hy
    cases x with
    -- A module leads where its edges lead that are open in the environment.
    | module m =>
      obtain ⟨e, he, htarget⟩ := List.mem_filterMap.1 hy
      obtain ⟨hedge, hopen⟩ := mem_edgesIn.1 he
      cases y with
      | module n =>
        obtain ⟨hn, heq⟩ := target?_eq_module.1 htarget
        exact .toModule hedge hopen hn heq
      | product p =>
        obtain ⟨hp, heq⟩ := target?_eq_product.1 htarget
        exact .toProduct hedge hopen hp heq
    -- A product leads to its members, whatever the environment.
    | product p =>
      obtain ⟨n, hmem, rfl⟩ := exists_member_of_product env hy
      obtain ⟨hn, hmember⟩ := mem_members.1 hmem
      exact .toMember hn hmember
  · intro h
    cases h with
    | toModule hedge hopen hn htarget =>
      have htarget' := target?_eq_module.2 ⟨hn, htarget⟩
      exact List.mem_filterMap.2 ⟨_, mem_edgesIn.2 ⟨hedge, hopen⟩, htarget'⟩
    | toProduct hedge hopen hp htarget =>
      have htarget' := target?_eq_product.2 ⟨hp, htarget⟩
      exact List.mem_filterMap.2 ⟨_, mem_edgesIn.2 ⟨hedge, hopen⟩, htarget'⟩
    | toMember hn hmember =>
      exact List.mem_map_of_mem (mem_members.2 ⟨hn, hmember⟩)

/-- Steps lead to nodes of the lookup. -/
theorem Leads.mem_nodes (h : l.Leads env x y) : y ∈ l.nodes :=
  mem_nodes_of_successor (mem_successors.2 h)

/-- Whatever nodes of the lookup lead to are nodes of the lookup. -/
theorem mem_nodes_of_leads (hx : x ∈ l.nodes) (h : ReflTransGen (l.Leads env) x y) :
    y ∈ l.nodes := by
  cases h with
  | refl => exact hx
  | tail _ hstep => exact hstep.mem_nodes

/-- A step in an environment is a step. -/
theorem Leads.anywhere (h : l.Leads env x y) : l.Leads none x y := by
  have hopen (e : Edge) : e.OpenIn none := fun v hv => nomatch hv
  cases h with
  | toModule hedge _ hn htarget => exact .toModule hedge (hopen _) hn htarget
  | toProduct hedge _ hp htarget => exact .toProduct hedge (hopen _) hp htarget
  | toMember hn hmember => exact .toMember hn hmember

/-- The walks of the graph of modules and products are made of these steps. -/
theorem reaches_iff :
    (l.nodeGraph env starts).Reaches x y ↔ ReflTransGen (l.Leads env) x y :=
  Digraph.reaches_iff mem_successors

/-- What can be reached from start nodes is what they lead to. -/
theorem mem_reachedFrom_iff :
    x ∈ (l.nodeGraph env starts).reachedFrom starts ↔
      ∃ a ∈ starts, ReflTransGen (l.Leads env) a x := by
  simp only [Digraph.reachedFrom, Set.mem_ofPred_eq, reaches_iff]

/-- Whatever is listed is something that the start nodes lead to. -/
theorem leads_of_closure {nodes : List Node} (h : l.closure env starts = .ok nodes)
    (hx : x ∈ nodes) : ∃ a ∈ starts, ReflTransGen (l.Leads env) a x :=
  mem_reachedFrom_iff.1 (Digraph.reachedFrom_of_sort (Except.mapError_eq_ok.1 h) hx)

/-! ### Lookups without cycles -/

/-- A module that leads back to itself is on a cycle of modules. -/
theorem Acyclic.not_leads_back (h : l.Acyclic) {m : Module} (hm : m ∈ l.modules.toList) :
    ¬ TransGen (l.Leads env) (.module m) (.module m) := by
  intro hback
  obtain ⟨b, hstep, hrest⟩ := TransGen.head'_iff.1 hback
  have hcycle : (l.nodeGraph env []).OnCycle (.module m) :=
    ⟨b, mem_successors.2 hstep, .module m, reaches_iff.2 hrest, rfl⟩
  exact h m hm (onCycle_of_module hcycle)

/-- In an ordered list, everything that a node leads to comes after it, however many steps away. -/
theorem mem_below_of_leads {nodes : List Node} (hnodes : ∀ x ∈ nodes, x ∈ l.nodes)
    (hordered : (l.nodeGraph env starts).Ordered nodes) {above below : List Node}
    (hsplit : nodes = above ++ x :: below) (h : TransGen (l.Leads env) x y) : y ∈ below := by
  have hfind {u v : Node} {rest : List Node} (hsuffix : u :: rest <:+ nodes)
      (hstep : l.Leads env u v) : v ∈ rest := by
    obtain ⟨w, hw, hid⟩ := List.mem_map.1 (hordered u rest hsuffix v (mem_successors.2 hstep))
    have hwnodes := hnodes w (hsuffix.subset (List.mem_cons_of_mem u hw))
    exact eq_of_id_eq hwnodes hstep.mem_nodes hid ▸ hw
  have hsuffix : x :: below <:+ nodes := ⟨above, hsplit.symm⟩
  -- Induction on the way, from its end: the node before the last one comes after `x`.
  induction h with
  | single hstep => exact hfind hsuffix hstep
  | tail _ hstep ih =>
    obtain ⟨between, rest, rfl⟩ := List.append_of_mem ih
    have hrest : _ :: rest <:+ nodes :=
      (List.suffix_append between _).trans ((List.suffix_cons x _).trans hsuffix)
    have hmem := hfind hrest hstep
    simp [hmem]

/-- Without cycles, everything that some nodes of the lookup lead to can be listed in order. -/
theorem Acyclic.closure_lists (h : l.Acyclic) (env : Option Environment)
    (hstarts : ∀ x ∈ starts, x ∈ l.nodes) :
    ∃ reached, l.closure env starts = .ok reached ∧
      l.Lists env (fun x => ∃ a ∈ starts, ReflTransGen (l.Leads env) a x) reached := by
  obtain ⟨reached, hreached⟩ := closure_ok env hstarts h
  have hsort := Except.mapError_eq_ok.1 hreached
  have hlists := (distinctKeys_nodeGraph env hstarts).listsInOrder
    (covers_nodeGraph l env starts) hsort
  have hnodes : ∀ x, (∃ a ∈ starts, ReflTransGen (l.Leads env) a x) → x ∈ l.nodes := by
    rintro x ⟨a, ha, hax⟩
    exact mem_nodes_of_leads (hstarts a ha) hax
  have hlisted : ∀ x ∈ reached, x ∈ l.nodes :=
    fun x hx => hnodes x (leads_of_closure hreached hx)
  refine ⟨reached, hreached, fun x => ⟨leads_of_closure hreached, fun hx => ?_⟩, hlists.once,
    fun above x below hsplit y hxy => ?_⟩
  · -- A node with the id of `x` is listed, and no other node of the lookup has that id.
    obtain ⟨y, hy, hid⟩ := List.mem_map.1 (hlists.all x (mem_reachedFrom_iff.2 hx))
    exact eq_of_id_eq (hlisted y hy) (hnodes x hx) hid ▸ hy
  · exact mem_below_of_leads hlisted hlists.ordered hsplit hxy

end Lookup

end ModuleGraph
