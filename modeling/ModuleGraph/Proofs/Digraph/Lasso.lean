import ModuleGraph.Proofs.Digraph.Unbounded

/-!
# What the search for a cycle reports

A reported cycle is a lasso: a walk of distinct nodes from a start node, the last of which leads
back to one on the way.  The search reports one exactly if the sort fails: both stop when the next
node stands on the path already, and the search alone tells which cycle has been closed there.

## Key results

- `ClosesFirst.isLasso`: the cycle that is closed first is a lasso
- `findCycle_correct`: the search ends on every finite graph, with a lasso exactly if the sort fails
-/

namespace ModuleGraph.Digraph

variable {α κ : Type}

/-- A walk of distinct nodes from a start node along a path and around a cycle, whose last node
leads back to the first node of the cycle. -/
structure IsLasso (g : Digraph α κ) (starts : List α) (c : Cycle α) : Prop where
  starts : ∀ a ∈ (c.path ++ c.cycle).head?, a ∈ starts
  follows : (c.path ++ c.cycle).IsChain fun a b => b ∈ g.successors a
  distinct : ((c.path ++ c.cycle).map g.key).Nodup
  closed : c.cycle ≠ []
  back : ∀ last ∈ c.cycle.getLast?, ∃ b ∈ g.successors last,
    c.cycle.head?.map g.key = some (g.key b)

/-- A cycle that choices close is a lasso. -/
theorem Closes.isLasso {g : Digraph α κ} {starts : List α} {choices : List Nat} {c : Cycle α}
    (h : g.Closes starts choices c) : g.IsLasso starts c := by
  obtain ⟨hdistinct, hclosed⟩ := h.nodup
  obtain ⟨b, hhead, hchain, hstart⟩ := h.isChain
  obtain ⟨hfollows, -, hlink⟩ := List.isChain_append.1 hchain
  refine ⟨hstart, hfollows, hdistinct, hclosed, fun last hlast => ⟨b, ?_, hhead⟩⟩
  -- The last node of the cycle is the last node of the walk.
  refine hlink last ?_ b rfl
  rw [List.getLast?_append_of_ne_nil _ hclosed]
  exact hlast

/-- The cycle that is closed first is a lasso. -/
theorem ClosesFirst.isLasso {g : Digraph α κ} {starts : List α} {c : Cycle α}
    (h : g.ClosesFirst starts c) : g.IsLasso starts c := by
  obtain ⟨choices, hcloses, -⟩ := h
  exact hcloses.isLasso

variable [DecidableEq κ]

/-- The search finds a cycle exactly if the sort fails. -/
theorem exists_findCycle_iff {g : Digraph α κ} (hkey : g.KeyDetermined) {starts : List α}
    (hcov : g.Covers starts) :
    (∃ c, g.findCycle starts = some c) ↔ ∃ e, g.sort starts = .error e := by
  have hok := sort_isOk_iff hkey hcov
  cases hsort : g.sort starts with
  | error e =>
    have hne : g.findCycle starts ≠ none := fun hnone => by simp [hsort, hnone] at hok
    exact ⟨fun _ => ⟨e, rfl⟩, fun _ => Option.ne_none_iff_exists'.1 hne⟩
  | ok sorted =>
    have hnone := hok.1 ⟨sorted, hsort⟩
    simp [hnone]

/-- Wherever finitely many nodes can be reached, the search ends, with one outcome.  It has found a
cycle exactly if the sort of the same nodes fails, and the cycle is a lasso.  The bounded search has
this outcome whenever its nodes cover everything. -/
theorem findCycle_correct {g : Digraph α κ} (hkey : g.KeyDetermined) {starts : List α}
    (hfinite : (g.reachedFrom starts).Finite) :
    ∃ found, g.SearchEnds starts found ∧
      (g.Covers starts → g.findCycle starts = found) ∧
      ((∃ c, found = some c) ↔ ∃ e, g.SortEnds starts (.error e)) ∧
      ∀ c, found = some c → g.IsLasso starts c := by
  obtain ⟨nodes, hcov⟩ := exists_covers hfinite
  -- On finitely many nodes that cover everything, the bounded search and sort have the outcomes.
  have hkey' : (g.withNodes nodes).KeyDetermined := hkey
  have hends : g.SearchEnds starts ((g.withNodes nodes).findCycle starts) :=
    searchEnds_findCycle hkey' hcov
  have hsort : g.SortEnds starts ((g.withNodes nodes).sort starts) := sortEnds_sort hkey' hcov
  refine ⟨(g.withNodes nodes).findCycle starts, hends, fun hcov' => ?_, ?_, fun c hc => ?_⟩
  · exact (searchEnds_findCycle hkey hcov').unique hends
  · rw [exists_findCycle_iff hkey' hcov]
    constructor
    · rintro ⟨e, he⟩
      exact ⟨e, he ▸ hsort⟩
    · rintro ⟨e, he⟩
      exact ⟨e, hsort.unique he⟩
  · have h := ((findCycle_eq_some_iff hkey' hcov c).1 hc).isLasso
    exact ⟨h.starts, h.follows, h.distinct, h.closed, h.back⟩

/-- A ring with a way into it, and an edge that is there twice. -/
def ring : Digraph Nat Nat where
  key := id
  successors
    | 0 => [4, 1, 1]
    | 1 => [4, 2]
    | 2 => [3, 3]
    | 3 => [1]
    | _ => []
  nodes := [0, 1, 2, 3, 4]

/-- A start node that leads nowhere, and one that leads into the ring. -/
theorem findCycle_correct_ring :
    ring.KeyDetermined ∧ (ring.reachedFrom [4, 0]).Finite ∧
      ring.SearchEnds [4, 0] (some ⟨[0], [1, 2, 3]⟩) ∧
      (∃ e, ring.SortEnds [4, 0] (.error e)) ∧ ring.IsLasso [4, 0] ⟨[0], [1, 2, 3]⟩ := by
  have hkey : ring.KeyDetermined := keyDetermined_of_injective fun _ _ h => h
  have hcov : ring.Covers [4, 0] := ⟨by decide, by decide⟩
  have hfind : ring.findCycle [4, 0] = some ⟨[0], [1, 2, 3]⟩ := by rfl
  obtain ⟨found, hends, hbounded, hsort, hlasso⟩ := findCycle_correct hkey hcov.finite
  have hfound : found = some ⟨[0], [1, 2, 3]⟩ := by rw [← hbounded hcov, hfind]
  rw [hfound] at hends
  exact ⟨hkey, hcov.finite, hends, hsort.1 ⟨_, hfound⟩, hlasso _ hfound⟩

end ModuleGraph.Digraph
