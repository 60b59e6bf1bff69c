import ModuleGraph.Proofs.Digraph.SortAgreement
import ModuleGraph.Proofs.Loop
import Mathlib.Data.Set.Finite.List

/-!
# Walks without a bound

The nodes that a graph lists bound the steps of a walk, and have no other part in it.  Here the sort
and the search for a cycle are stated without that bound: each walk makes as many steps as it needs,
or never ends.  Where only finitely many nodes can be reached, both end (`exists_covers` gives nodes
that suffice), and with nodes that cover everything the bounded walks have the same outcome.

## Key results

- `InTurn.unique`: there is one outcome at most
- `exists_covers`: finitely many nodes that can be reached are covered by a list
- `sortEnds_sort`, `searchEnds_findCycle`: the bound does not change the outcome
-/

namespace ModuleGraph

/-! ### Walks, one after the other -/

/-- A walk from a node with a key, unless the node has been left already. -/
def WalksFrom {κ σ ρ : Type} [DecidableEq κ] (left : List κ) (k : κ) (stay : ρ)
    (step : σ → Step σ ρ) (s : σ) (r : ρ) : Prop :=
  if k ∈ left then r = stay else Loop.Ends step s r

/-- A walk from a node has one outcome at most. -/
theorem WalksFrom.unique {κ σ ρ : Type} [DecidableEq κ] {left : List κ} {k : κ} {stay : ρ}
    {step : σ → Step σ ρ} {s : σ} {r r' : ρ} (h : WalksFrom left k stay step s r)
    (h' : WalksFrom left k stay step s r') : r = r' := by
  unfold WalksFrom at h h'
  by_cases hleft : k ∈ left
  · rw [if_pos hleft] at h h'
    rw [h, h']
  · rw [if_neg hleft] at h h'
    exact h.unique h'

/-- Work on the items of a list in turn, until it fails on one of them. -/
inductive InTurn {σ α ε : Type} (work : σ → α → Except ε σ → Prop) :
    σ → List α → Except ε σ → Prop
  | nil (s : σ) : InTurn work s [] (.ok s)
  | next {s s' : σ} {a : α} {rest : List α} {r : Except ε σ} (hfirst : work s a (.ok s'))
      (hrest : InTurn work s' rest r) : InTurn work s (a :: rest) r
  | fail {s : σ} {a : α} {rest : List α} {e : ε} (hfirst : work s a (.error e)) :
      InTurn work s (a :: rest) (.error e)

section
variable {σ α ε : Type} {work : σ → α → Except ε σ → Prop}

/-- Work that has one outcome at most on every item has one on a list. -/
theorem InTurn.unique {s : σ} {items : List α} {r r' : Except ε σ} (h : InTurn work s items r)
    (h' : InTurn work s items r') (hwork : ∀ s a r r', work s a r → work s a r' → r = r') :
    r = r' := by
  induction h with
  | nil s =>
    cases h'
    rfl
  -- Both go on from the same state, or one fails where the other goes on, which cannot be.
  | next hfirst _ ih =>
    cases h' with
    | next hfirst' hrest' =>
      cases hwork _ _ _ _ hfirst hfirst'
      exact ih hrest'
    | fail hfirst' => exact nomatch hwork _ _ _ _ hfirst hfirst'
  | fail hfirst =>
    cases h' with
    | next hfirst' _ => exact nomatch hwork _ _ _ _ hfirst hfirst'
    | fail hfirst' =>
      cases hwork _ _ _ _ hfirst hfirst'
      rfl

/-- A fold does the work in turn if it does it on every item. -/
theorem inTurn_foldlM {f : σ → α → Except ε σ} (inv : σ → Prop) {items : List α}
    (hstep : ∀ a ∈ items, ∀ s, inv s →
      work s a (f s a) ∧ ∀ s', f s a = .ok s' → inv s') {s : σ} (hs : inv s) :
    InTurn work s items (items.foldlM f s) := by
  induction items generalizing s with
  | nil => exact .nil s
  | cons a items ih =>
    obtain ⟨hfirst, hkeeps⟩ := hstep a (by simp) s hs
    rw [List.foldlM_cons]
    cases hf : f s a with
    | error e =>
      rw [hf] at hfirst
      exact .fail hfirst
    | ok s' =>
      rw [hf] at hfirst
      exact .next hfirst (ih (fun a ha => hstep a (by simp [ha])) (hkeeps s' hf))

end

namespace Digraph

variable {α κ : Type}

/-! ### Covering what can be reached -/

/-- The nodes to which the start nodes lead. -/
def reachedFrom (g : Digraph α κ) (starts : List α) : Set α :=
  {b | ∃ a ∈ starts, g.Reaches a b}

/-- The start nodes can be reached. -/
theorem mem_reachedFrom {g : Digraph α κ} {starts : List α} {a : α} (ha : a ∈ starts) :
    a ∈ g.reachedFrom starts :=
  ⟨a, ha, .refl a⟩

/-- A successor of what can be reached can be reached. -/
theorem reachedFrom_successor {g : Digraph α κ} {starts : List α} {a b : α}
    (ha : a ∈ g.reachedFrom starts) (hb : b ∈ g.successors a) : b ∈ g.reachedFrom starts := by
  obtain ⟨start, hstart, hreach⟩ := ha
  exact ⟨start, hstart, hreach.trans (.step hb (.refl b))⟩

/-- A walk through nodes at which two graphs agree is a walk of both. -/
theorem Reaches.congr {g g' : Digraph α κ} {p : α → Prop}
    (hclosed : ∀ a, p a → ∀ b ∈ g.successors a, p b)
    (hsame : ∀ a, p a → g.successors a = g'.successors a) {a b : α} (ha : p a)
    (h : g.Reaches a b) : g'.Reaches a b := by
  induction h with
  | refl a => exact .refl a
  | step hs _ ih => exact .step (hsame _ ha ▸ hs) (ih (hclosed _ ha _ hs))

/-- The same graph with another list of nodes. -/
def withNodes (g : Digraph α κ) (nodes : List α) : Digraph α κ := { g with nodes }

/-- The list of nodes has no part in walks. -/
@[simp] theorem reaches_withNodes {g : Digraph α κ} {nodes : List α} {a b : α} :
    (g.withNodes nodes).Reaches a b ↔ g.Reaches a b := by
  constructor
  · intro h
    exact h.congr (p := fun _ => True) (fun _ _ _ _ => trivial) (fun _ _ => by rfl) trivial
  · intro h
    exact h.congr (p := fun _ => True) (fun _ _ _ _ => trivial) (fun _ _ => by rfl) trivial

@[simp] theorem reachedFrom_withNodes {g : Digraph α κ} {nodes starts : List α} :
    (g.withNodes nodes).reachedFrom starts = g.reachedFrom starts := by
  simp only [reachedFrom, reaches_withNodes]

@[simp] theorem reachesCycle_withNodes {g : Digraph α κ} {nodes : List α} {a : α} :
    (g.withNodes nodes).ReachesCycle a ↔ g.ReachesCycle a := by
  simp only [ReachesCycle, OnCycle, reaches_withNodes]
  rfl

/-- If finitely many nodes can be reached, some list of nodes covers them. -/
theorem exists_covers {g : Digraph α κ} {starts : List α} (h : (g.reachedFrom starts).Finite) :
    ∃ nodes, (g.withNodes nodes).Covers starts := by
  obtain ⟨nodes, hnodes⟩ := h.exists_finset_coe
  have hmem (b : α) : b ∈ nodes.toList ↔ b ∈ g.reachedFrom starts := by
    rw [Finset.mem_toList, ← Finset.mem_coe, hnodes]
  refine ⟨nodes.toList, fun a ha => (hmem a).2 (mem_reachedFrom ha), fun b hb c hc => ?_⟩
  exact (hmem c).2 (reachedFrom_successor ((hmem b).1 hb) hc)

/-- Nodes that cover everything have whatever can be reached. -/
theorem Covers.mem_nodes {g : Digraph α κ} {starts : List α} (hcov : g.Covers starts) {a b : α}
    (ha : a ∈ g.nodes) (h : g.Reaches a b) : b ∈ g.nodes := by
  induction h with
  | refl => exact ha
  | step hs _ ih => exact ih (hcov.successors _ ha _ hs)

/-- If a list of nodes covers everything, finitely many can be reached. -/
theorem Covers.finite {g : Digraph α κ} {starts : List α} (hcov : g.Covers starts) :
    (g.reachedFrom starts).Finite := by
  refine (List.finite_toSet g.nodes).subset fun b hb => ?_
  obtain ⟨a, ha, hab⟩ := hb
  exact hcov.mem_nodes (hcov.starts a ha) hab

variable [DecidableEq κ]

/-! ### The sort -/

/-- The walk of a sort from one start node, unless the node has been left already. -/
def SortsFrom (g : Digraph α κ) (s : SortState α κ) (start : α)
    (r : Except CycleFound (SortState α κ)) : Prop :=
  WalksFrom s.left (g.key start) (.ok s) g.sortStep { s with stack := [g.enter start] } r

/-- The sort ends with an outcome, however many steps that takes. -/
def SortEnds (g : Digraph α κ) (starts : List α) (outcome : Except CycleFound (List α)) : Prop :=
  ∃ r, InTurn g.SortsFrom ⟨[], [], []⟩ starts r ∧ outcome = r.map (·.sorted)

/-- A sort ends with one outcome at most. -/
theorem SortEnds.unique {g : Digraph α κ} {starts : List α} {r r' : Except CycleFound (List α)}
    (h : g.SortEnds starts r) (h' : g.SortEnds starts r') : r = r' := by
  obtain ⟨q, hq, rfl⟩ := h
  obtain ⟨q', hq', rfl⟩ := h'
  have hsame : q = q' := hq.unique hq' fun _ _ _ _ hr hr' => WalksFrom.unique hr hr'
  rw [hsame]

/-- With nodes that cover everything, the walk from one start node is not cut short. -/
theorem sortsFrom_sortFrom {g : Digraph α κ} (hkey : g.KeyDetermined) {starts : List α}
    (hcov : g.Covers starts) {start : α} (hstart : start ∈ g.nodes) (s : SortState α κ)
    (hleft : g.Left s.left) :
    g.SortsFrom s start (g.sortFrom s start) ∧
      ∀ s', g.sortFrom s start = .ok s' → g.Left s'.left := by
  refine ⟨?_, fun s' hs' => (sortFrom_leaves hkey hcov hstart hleft hs').1⟩
  unfold SortsFrom WalksFrom sortFrom
  simp only [List.contains_iff_mem]
  split
  · rfl
  · -- The search for a cycle ends within the bound, and so does the sort.
    obtain ⟨q, hq, -⟩ := run_cycleStep hkey hcov hstart hleft
    obtain ⟨r, hr, -⟩ := g.agrees_run g.walkSteps { s with stack := [g.enter start] } q hq
    rw [hr]
    exact ⟨g.walkSteps, hr⟩

/-- With nodes that cover everything, the bound does not change the outcome of a sort. -/
theorem sortEnds_sort {g : Digraph α κ} (hkey : g.KeyDetermined) {starts : List α}
    (hcov : g.Covers starts) : g.SortEnds starts (g.sort starts) := by
  refine ⟨starts.foldlM g.sortFrom ⟨[], [], []⟩, ?_, rfl⟩
  exact inTurn_foldlM (fun s => g.Left s.left)
    (fun a ha s hs => sortsFrom_sortFrom hkey hcov (hcov.starts a ha) s hs) (left_nil g)

/-! ### The search for a cycle -/

/-- The search from one start node, unless the node has been left already. -/
def SearchesFrom (g : Digraph α κ) (left : List κ) (start : α)
    (r : Except (Cycle α) (List κ)) : Prop :=
  WalksFrom left (g.key start) (.ok left) g.cycleStep ⟨[g.enter start], left⟩ r

/-- The search for a cycle ends, however many steps that takes, with the cycle that it finds. -/
def SearchEnds (g : Digraph α κ) (starts : List α) (found : Option (Cycle α)) : Prop :=
  ∃ r, InTurn g.SearchesFrom [] starts r ∧
    found = match r with
      | .ok _ => none
      | .error c => some c

/-- A search for a cycle ends with one outcome at most. -/
theorem SearchEnds.unique {g : Digraph α κ} {starts : List α} {found found' : Option (Cycle α)}
    (h : g.SearchEnds starts found) (h' : g.SearchEnds starts found') : found = found' := by
  obtain ⟨q, hq, rfl⟩ := h
  obtain ⟨q', hq', rfl⟩ := h'
  have hsame : q = q' := hq.unique hq' fun _ _ _ _ hr hr' => WalksFrom.unique hr hr'
  rw [hsame]

/-- With nodes that cover everything, the search from one start node is not cut short. -/
theorem searchesFrom_cycleFrom {g : Digraph α κ} (hkey : g.KeyDetermined) {starts : List α}
    (hcov : g.Covers starts) {start : α} (hstart : start ∈ g.nodes) (left : List κ)
    (hleft : g.Left left) :
    g.SearchesFrom left start (g.cycleFrom left start) ∧
      ∀ left', g.cycleFrom left start = .ok left' → g.Left left' := by
  have hspec := cycleFrom_spec hkey hcov hstart hleft
  refine ⟨?_, fun left' hok => by rw [hok] at hspec; exact hspec.1⟩
  unfold SearchesFrom WalksFrom cycleFrom
  simp only [List.contains_iff_mem]
  split
  · rfl
  · obtain ⟨r, hr, -⟩ := run_cycleStep hkey hcov hstart hleft
    rw [hr]
    exact ⟨g.walkSteps, hr⟩

/-- With nodes that cover everything, the bound does not change what the search finds. -/
theorem searchEnds_findCycle {g : Digraph α κ} (hkey : g.KeyDetermined) {starts : List α}
    (hcov : g.Covers starts) : g.SearchEnds starts (g.findCycle starts) := by
  refine ⟨starts.foldlM g.cycleFrom [], ?_, rfl⟩
  exact inTurn_foldlM g.Left
    (fun a ha left hleft => searchesFrom_cycleFrom hkey hcov (hcov.starts a ha) left hleft)
    (left_nil g)

end Digraph

end ModuleGraph
