import ModuleGraph.Proofs.Digraph.Lasso
import ModuleGraph.Proofs.Digraph.Sorted

/-!
# Graphs whose nodes have keys of their own

Where nodes are told apart by a part of what they hold, other nodes than those of the graph may have
the same keys and lead elsewhere, so the graph is not `KeyDetermined`.  A walk that begins among the
nodes of the graph never meets such a node.  In the `canonical` graph a node leads to what the node
of the graph with its key leads to: that graph is key-determined, and no walk among the nodes can
tell the two apart.

## Key results

- `sort_canonical`, `findCycle_canonical`: both walks are the same in the canonical graph
- `DistinctKeys.sort_error_iff`: the sort fails exactly if a cycle can be reached
- `DistinctKeys.listsInOrder`: otherwise it lists what can be reached, once each and in order
- `DistinctKeys.exists_sort`: without cycles, it lists exactly what steps lead to
- `DistinctKeys.isChain_closedWalk`: a cycle that is found comes back to its very first node
-/

namespace ModuleGraph.Digraph

variable {α κ : Type}

/-- No two nodes of the graph have the same key. -/
def DistinctKeys (g : Digraph α κ) : Prop :=
  ∀ a ∈ g.nodes, ∀ b ∈ g.nodes, g.key a = g.key b → a = b

/-- Nodes can be reached by the steps that the graph makes. -/
theorem reaches_iff {g : Digraph α κ} {r : α → α → Prop}
    (hr : ∀ {a b}, b ∈ g.successors a ↔ r a b) {a b : α} :
    g.Reaches a b ↔ Relation.ReflTransGen r a b := by
  constructor
  · intro h
    induction h with
    | refl => exact .refl
    | step hs _ ih => exact .head (hr.1 hs) ih
  · intro h
    induction h using Relation.ReflTransGen.head_induction_on with
    | refl => exact .refl b
    | head hstep _ ih => exact .step (hr.2 hstep) ih

/-! ### Graphs that agree at some nodes -/

/-- Whether a node leads to a cycle depends on the nodes that it leads to alone. -/
theorem ReachesCycle.agree {g g' : Digraph α κ} {p : α → Prop} (hkey : g.key = g'.key)
    (hclosed : ∀ a, p a → ∀ b ∈ g.successors a, p b)
    (hsame : ∀ a, p a → g.successors a = g'.successors a) {a : α} (ha : p a)
    (h : g.ReachesCycle a) : g'.ReachesCycle a := by
  -- All nodes on the way satisfy `p`, so the way is one in both graphs.
  have hreach {b c : α} (hb : p b) (hbc : g.Reaches b c) : p c := by
    induction hbc with
    | refl => exact hb
    | step hs _ ih => exact ih (hclosed _ hb _ hs)
  obtain ⟨b, hab, s, hs, c, hsc, hc⟩ := h
  have hb : p b := hreach ha hab
  have hstep : p s := hclosed b hb s hs
  exact ⟨b, hab.congr hclosed hsame ha, s, hsame b hb ▸ hs, c, hsc.congr hclosed hsame hstep,
    hkey ▸ hc⟩

/-! ### Lassos among the nodes -/

/-- A lasso does not leave nodes that cover everything. -/
theorem IsLasso.mem_nodes {g : Digraph α κ} {starts : List α} (hcov : g.Covers starts)
    {c : Cycle α} (h : g.IsLasso starts c) : ∀ a ∈ c.path ++ c.cycle, a ∈ g.nodes := by
  have hstart := h.starts
  have hfollows := h.follows
  cases hwalk : c.path ++ c.cycle with
  | nil => simp
  | cons first rest =>
    rw [hwalk] at hstart hfollows
    have hfirst : first ∈ g.nodes := hcov.starts first (hstart first rfl)
    exact fun a ha => hcov.mem_nodes hfirst (g.reaches_of_isChain first rest hfollows a ha)

/-- Among nodes with keys of their own, a lasso comes back to the very first node of its cycle. -/
theorem DistinctKeys.isChain_closedWalk {g : Digraph α κ} (hdist : g.DistinctKeys)
    {starts : List α} (hcov : g.Covers starts) {c : Cycle α} (h : g.IsLasso starts c) :
    c.closedWalk.IsChain fun a b => b ∈ g.successors a := by
  have hnodes := h.mem_nodes hcov
  refine List.isChain_append.2 ⟨h.follows, ?_, fun last hlast first hfirst => ?_⟩
  · cases c.cycle.head? <;> simp
  · rw [List.getLast?_append_of_ne_nil _ h.closed] at hlast
    have hhead : c.cycle.head? = some first := by simpa using hfirst
    obtain ⟨b, hb, hkeyb⟩ := h.back last hlast
    rw [hhead, Option.map_some, Option.some.injEq] at hkeyb
    -- Both the node that is met again and the one that comes first are nodes of the graph.
    have hlastmem := hnodes last (List.mem_append_right _ (List.mem_of_mem_getLast? hlast))
    have hfirstmem := hnodes first (List.mem_append_right _ (List.mem_of_mem_head? hhead))
    rw [hdist first hfirstmem b (hcov.successors last hlastmem b hb) hkeyb]
    exact hb

variable [DecidableEq κ]

/-! ### The canonical graph -/

/-- The graph in which a node leads to what the node of `g` with its key leads to. -/
def canonical (g : Digraph α κ) : Digraph α κ where
  key := g.key
  successors a := ((g.nodes.find? fun b => g.key b == g.key a).map g.successors).getD []
  nodes := g.nodes

/-- In the canonical graph, where a node leads depends on its key alone. -/
theorem keyDetermined_canonical (g : Digraph α κ) : g.canonical.KeyDetermined := by
  intro a b hab
  have hkey : g.key a = g.key b := hab
  simp only [canonical, hkey]

section
variable {g : Digraph α κ} {starts : List α}

/-- The nodes of a graph lead in the canonical graph where they lead. -/
theorem successors_canonical (hdist : g.DistinctKeys) {a : α} (ha : a ∈ g.nodes) :
    g.canonical.successors a = g.successors a := by
  show ((g.nodes.find? fun b => g.key b == g.key a).map g.successors).getD [] = g.successors a
  cases hfind : g.nodes.find? fun b => g.key b == g.key a with
  | none =>
    have hnone := List.find?_eq_none.1 hfind a ha
    simp at hnone
  | some b =>
    have hkey : g.key b = g.key a := by simpa using List.find?_some hfind
    rw [hdist b (List.mem_of_find?_eq_some hfind) a ha hkey]
    rfl

/-- The nodes of a graph are entered in the canonical graph as they are. -/
theorem enter_canonical (hdist : g.DistinctKeys) {a : α} (ha : a ∈ g.nodes) :
    g.canonical.enter a = g.enter a := by
  rw [enter, enter, successors_canonical hdist ha]

/-- What covers everything does so in the canonical graph. -/
theorem covers_canonical (hdist : g.DistinctKeys) (hcov : g.Covers starts) :
    g.canonical.Covers starts where
  starts := hcov.starts
  successors := by
    intro a ha b hb
    rw [successors_canonical hdist ha] at hb
    exact hcov.successors a ha b hb

/-- A node leads to a cycle of the canonical graph exactly if it leads to one. -/
theorem reachesCycle_canonical (hdist : g.DistinctKeys) (hcov : g.Covers starts) {a : α}
    (ha : a ∈ g.nodes) : g.canonical.ReachesCycle a ↔ g.ReachesCycle a := by
  have hsame : ∀ a ∈ g.nodes, g.canonical.successors a = g.successors a :=
    fun a ha => successors_canonical hdist ha
  constructor
  · exact .agree (by rfl) (covers_canonical hdist hcov).successors hsame ha
  · exact .agree (by rfl) hcov.successors (fun a ha => (hsame a ha).symm) ha

/-- The start nodes lead to the same nodes in the canonical graph. -/
theorem reachedFrom_canonical (hdist : g.DistinctKeys) (hcov : g.Covers starts) :
    g.canonical.reachedFrom starts = g.reachedFrom starts := by
  have hsame : ∀ a ∈ g.nodes, g.canonical.successors a = g.successors a :=
    fun a ha => successors_canonical hdist ha
  -- A walk from the start nodes stays among nodes of the graph, in either graph.
  ext b
  constructor
  · rintro ⟨a, ha, hab⟩
    have hclosed := (covers_canonical hdist hcov).successors
    exact ⟨a, ha, hab.congr hclosed hsame (hcov.starts a ha)⟩
  · rintro ⟨a, ha, hab⟩
    have hsame' : ∀ a ∈ g.nodes, g.successors a = g.canonical.successors a :=
      fun a ha => (hsame a ha).symm
    exact ⟨a, ha, hab.congr hcov.successors hsame' (hcov.starts a ha)⟩

/-! ### The walks in the canonical graph -/

/-- A step of the search is the same while it stays among the nodes. -/
theorem cycleStep_canonical (hdist : g.DistinctKeys) {s : CycleState α κ}
    (hs : ∀ f ∈ s.stack, ∀ b ∈ f.rest, b ∈ g.nodes) :
    g.canonical.cycleStep s = g.cycleStep s := by
  obtain ⟨stack, left⟩ := s
  match stack with
  | [] => rfl
  | ⟨node, []⟩ :: stack => rfl
  | ⟨node, b :: rest⟩ :: stack =>
    have hb : b ∈ g.nodes := hs ⟨node, b :: rest⟩ (by simp) b (by simp)
    simp only [cycleStep, enter_canonical hdist hb]
    rfl

/-- A step of the sort is the same while it stays among the nodes. -/
theorem sortStep_canonical (hdist : g.DistinctKeys) {s : SortState α κ}
    (hs : ∀ f ∈ s.stack, ∀ b ∈ f.rest, b ∈ g.nodes) :
    g.canonical.sortStep s = g.sortStep s := by
  obtain ⟨stack, left, sorted⟩ := s
  match stack with
  | [] => rfl
  | ⟨node, []⟩ :: stack => rfl
  | ⟨node, b :: rest⟩ :: stack =>
    have hb : b ∈ g.nodes := hs ⟨node, b :: rest⟩ (by simp) b (by simp)
    simp only [sortStep, enter_canonical hdist hb]
    rfl

/-- A walk may make as many steps in the canonical graph. -/
theorem walkSteps_canonical (hdist : g.DistinctKeys) : g.canonical.walkSteps = g.walkSteps := by
  have hflat : g.nodes.flatMap g.canonical.successors = g.nodes.flatMap g.successors :=
    List.flatMap_congr fun a ha => successors_canonical hdist ha
  show g.nodes.length + (g.nodes.flatMap g.canonical.successors).length + 1 = g.walkSteps
  rw [hflat, walkSteps]

/-- The sort is the same in the canonical graph. -/
theorem sort_canonical (hdist : g.DistinctKeys) (hcov : g.Covers starts) :
    g.canonical.sort starts = g.sort starts := by
  have hfold : starts.foldlM g.canonical.sortFrom ⟨[], [], []⟩ =
      starts.foldlM g.sortFrom ⟨[], [], []⟩ := by
    refine Except.foldlM_congr (fun start hstart s => ?_) _
    have hstart : start ∈ g.nodes := hcov.starts start hstart
    -- As long as the nodes still to be looked at are nodes of the graph, the steps are the same.
    have hrun := Loop.run_congr
      (fun s : SortState α κ => ∀ f ∈ s.stack, ∀ b ∈ f.rest, b ∈ g.nodes)
      (fun s hs => (sortStep_canonical hdist hs).symm)
      (fun s s' hs h => nodes_cycleStep hcov (cycleStep_of_sortStep h) hs)
      (s := { s with stack := [g.enter start] }) (rest_enter hcov hstart) g.walkSteps
    unfold sortFrom
    rw [enter_canonical hdist hstart, walkSteps_canonical hdist, ← hrun]
    rfl
  unfold sort
  rw [hfold]

/-- The search for a cycle is the same in the canonical graph. -/
theorem findCycle_canonical (hdist : g.DistinctKeys) (hcov : g.Covers starts) :
    g.canonical.findCycle starts = g.findCycle starts := by
  have hfold : starts.foldlM g.canonical.cycleFrom [] = starts.foldlM g.cycleFrom [] := by
    refine Except.foldlM_congr (fun start hstart left => ?_) _
    have hstart : start ∈ g.nodes := hcov.starts start hstart
    have hrun := Loop.run_congr
      (fun s : CycleState α κ => ∀ f ∈ s.stack, ∀ b ∈ f.rest, b ∈ g.nodes)
      (fun s hs => (cycleStep_canonical hdist hs).symm)
      (fun s s' hs h => nodes_cycleStep hcov h hs)
      (s := ⟨[g.enter start], left⟩) (rest_enter hcov hstart) g.walkSteps
    unfold cycleFrom
    rw [enter_canonical hdist hstart, walkSteps_canonical hdist, ← hrun]
    rfl
  unfold findCycle
  rw [hfold]

/-! ### What the walks give -/

/-- The sort fails exactly if a start node leads to a cycle. -/
theorem DistinctKeys.sort_error_iff (hdist : g.DistinctKeys) (hcov : g.Covers starts) :
    (∃ e, g.sort starts = .error e) ↔ ∃ a ∈ starts, g.ReachesCycle a := by
  rw [← sort_canonical hdist hcov,
    Digraph.sort_error_iff g.keyDetermined_canonical (covers_canonical hdist hcov)]
  refine exists_congr fun a => and_congr_right fun ha => ?_
  exact reachesCycle_canonical hdist hcov (hcov.starts a ha)

/-- The sort lists what can be reached from the start nodes, once each and in order. -/
theorem DistinctKeys.listsInOrder (hdist : g.DistinctKeys) (hcov : g.Covers starts)
    {sorted : List α} (h : g.sort starts = .ok sorted) : g.ListsInOrder starts sorted := by
  have hcov' := covers_canonical hdist hcov
  rw [← sort_canonical hdist hcov] at h
  obtain ⟨hreached, hall, honce, hordered⟩ := listsInOrder_of_sort g.keyDetermined_canonical hcov' h
  rw [reachedFrom_canonical hdist hcov] at hreached hall
  refine ⟨hreached, hall, honce, fun u below hsuffix v hv => ?_⟩
  -- Whatever is listed is a node of the graph, so it leads where it leads in the canonical graph.
  have hu : u ∈ g.nodes := by
    obtain ⟨a, ha, hau⟩ := hreached u (hsuffix.subset List.mem_cons_self)
    exact hcov.mem_nodes (hcov.starts a ha) hau
  rw [← successors_canonical hdist hu] at hv
  exact hordered u below hsuffix v hv

/-- If no steps lead back, the sort lists exactly what they lead to from the start nodes. -/
theorem DistinctKeys.exists_sort (hdist : g.DistinctKeys) (hcov : g.Covers starts)
    {r : α → α → Prop} (hr : ∀ {a b}, b ∈ g.successors a ↔ r a b)
    (hacyclic : ∀ a ∈ g.nodes, ¬ Relation.TransGen r a a) :
    ∃ sorted, g.sort starts = .ok sorted ∧
      ∀ b, b ∈ sorted ↔ ∃ a ∈ starts, Relation.ReflTransGen r a b := by
  have hnode {a b : α} (ha : a ∈ starts) (hab : g.Reaches a b) : b ∈ g.nodes :=
    hcov.mem_nodes (hcov.starts a ha) hab
  cases hsort : g.sort starts with
  | error e =>
    obtain ⟨a, ha, b, hab, s, hs, c, hsc, hkey⟩ := (hdist.sort_error_iff hcov).1 ⟨e, hsort⟩
    -- The node that is met again is the node itself.
    have hback : c = b := hdist c (hnode ha (hab.trans (.step hs hsc))) b (hnode ha hab) hkey
    subst hback
    exact absurd (.head' (hr.1 hs) ((reaches_iff hr).1 hsc)) (hacyclic c (hnode ha hab))
  | ok sorted =>
    have hlists := hdist.listsInOrder hcov hsort
    refine ⟨sorted, rfl, fun b => ⟨fun hb => ?_, fun ⟨a, ha, hwalk⟩ => ?_⟩⟩
    · obtain ⟨a, ha, hab⟩ := hlists.reached b hb
      exact ⟨a, ha, (reaches_iff hr).1 hab⟩
    · have hab := (reaches_iff hr).2 hwalk
      obtain ⟨c, hc, hkey⟩ := List.mem_map.1 (hlists.all b ⟨a, ha, hab⟩)
      obtain ⟨a', ha', hac⟩ := hlists.reached c hc
      exact hdist c (hnode ha' hac) b (hnode ha hab) hkey ▸ hc

/-- The search finds a cycle exactly if the sort fails. -/
theorem DistinctKeys.exists_findCycle_iff (hdist : g.DistinctKeys) (hcov : g.Covers starts) :
    (∃ c, g.findCycle starts = some c) ↔ ∃ e, g.sort starts = .error e := by
  rw [← sort_canonical hdist hcov, ← findCycle_canonical hdist hcov]
  exact Digraph.exists_findCycle_iff g.keyDetermined_canonical (covers_canonical hdist hcov)

/-- A cycle that the search finds is a lasso. -/
theorem DistinctKeys.isLasso (hdist : g.DistinctKeys) (hcov : g.Covers starts) {c : Cycle α}
    (h : g.findCycle starts = some c) : g.IsLasso starts c := by
  have hcov' := covers_canonical hdist hcov
  rw [← findCycle_canonical hdist hcov, findCycle_eq_some_iff g.keyDetermined_canonical hcov'] at h
  have hlasso := h.isLasso
  have hnodes := hlasso.mem_nodes hcov'
  refine ⟨hlasso.starts, ?_, hlasso.distinct, hlasso.closed, fun last hlast => ?_⟩
  · refine hlasso.follows.imp_of_mem_imp fun a b ha _ hb => ?_
    exact successors_canonical hdist (hnodes a ha) ▸ hb
  · have hmem := hnodes last (List.mem_append_right _ (List.mem_of_mem_getLast? hlast))
    rw [← successors_canonical hdist hmem]
    exact hlasso.back last hlast

end

end ModuleGraph.Digraph
