import ModuleGraph.Proofs.Digraph.CycleSearch
import ModuleGraph.Digraph.Sort

/-!
# The sort and the search for a cycle agree

Both walk the graph in the same order, keep the same stack, and stop where the walk comes back to
its own path.  So every step of the one is a step of the other, up to the list that the sort keeps
beside the stack, and the sort fails exactly if the search finds a cycle.

## Key results

- `agrees_step`: one step of the sort and one of the search agree
- `sort_isOk_iff`: the sort succeeds exactly if the search finds no cycle
-/

namespace ModuleGraph.Digraph

variable {α κ : Type}

/-- The state of a sort as the state of a search for a cycle. -/
def SortState.search (s : SortState α κ) : CycleState α κ := ⟨s.stack, s.left⟩

/-- Both walks have left the same nodes, or both have met a cycle. -/
def OutcomesAgree : Except CycleFound (SortState α κ) → Except (Cycle α) (List κ) → Prop
  | .ok s, .ok left => s.left = left
  | .error _, .error _ => True
  | _, _ => False

/-- A step of the sort and a step of the search lead to the same. -/
def StepsAgree : Step (SortState α κ) (Except CycleFound (SortState α κ)) →
    Step (CycleState α κ) (Except (Cycle α) (List κ)) → Prop
  | .next s, .next t => t = s.search
  | .done r, .done q => OutcomesAgree r q
  | _, _ => False

variable [DecidableEq κ]

/-- One step of the sort and one step of the search agree. -/
theorem agrees_step (g : Digraph α κ) (s : SortState α κ) :
    StepsAgree (g.sortStep s) (g.cycleStep s.search) := by
  obtain ⟨stack, left, sorted⟩ := s
  unfold sortStep cycleStep SortState.search
  match stack with
  | [] => rfl
  | ⟨node, []⟩ :: stack => rfl
  | ⟨node, b :: rest⟩ :: stack =>
    dsimp only
    split
    · rfl
    · split
      · trivial
      · rfl

/-- A search that ends is a sort that ends after as many steps. -/
theorem agrees_run (g : Digraph α κ) (n : Nat) (s : SortState α κ)
    (q : Except (Cycle α) (List κ)) (h : Loop.run g.cycleStep n s.search = some q) :
    ∃ r, Loop.run g.sortStep n s = some r ∧ OutcomesAgree r q := by
  -- Induction on the steps: both walks go on, or both are done.
  induction n generalizing s with
  | zero => simp [Loop.run] at h
  | succ n ih =>
    have hagree := g.agrees_step s
    rw [Loop.run] at h ⊢
    cases hsort : g.sortStep s with
    | next s' =>
      cases hcycle : g.cycleStep s.search with
      | next t' =>
        rw [hsort, hcycle] at hagree
        rw [hcycle] at h
        exact ih s' (hagree ▸ h)
      | done q' => rw [hsort, hcycle] at hagree; exact hagree.elim
    | done r' =>
      cases hcycle : g.cycleStep s.search with
      | next t' => rw [hsort, hcycle] at hagree; exact hagree.elim
      | done q' =>
        rw [hsort, hcycle] at hagree
        rw [hcycle] at h
        exact ⟨r', rfl, Option.some.inj h ▸ hagree⟩

/-- The walks from one start node agree. -/
theorem agrees_from {g : Digraph α κ} (hkey : g.KeyDetermined) {starts : List α}
    (hcov : g.Covers starts) {start : α} (hstart : start ∈ g.nodes) (s : SortState α κ)
    (hleft : g.Left s.left) :
    OutcomesAgree (g.sortFrom s start) (g.cycleFrom s.left start) := by
  unfold sortFrom cycleFrom
  split
  · rfl
  · obtain ⟨q, hq, -⟩ := run_cycleStep hkey hcov hstart hleft
    obtain ⟨r, hr, hagree⟩ :=
      g.agrees_run g.walkSteps { s with stack := [g.enter start] } q hq
    rw [hq, hr]
    exact hagree

/-- A walk of the sort leaves its start node, and none of the nodes that it has left leads to a
cycle. -/
theorem sortFrom_leaves {g : Digraph α κ} (hkey : g.KeyDetermined) {starts : List α}
    (hcov : g.Covers starts) {start : α} (hstart : start ∈ g.nodes) {s s' : SortState α κ}
    (hleft : g.Left s.left) (h : g.sortFrom s start = .ok s') :
    g.LeavesOrFinds start s.left (.ok s'.left) := by
  have hagree := agrees_from hkey hcov hstart s hleft
  have hspec := cycleFrom_spec hkey hcov hstart hleft
  rw [h] at hagree
  cases hcycle : g.cycleFrom s.left start with
  | error c =>
    rw [hcycle] at hagree
    exact hagree.elim
  | ok left' =>
    rw [hcycle] at hagree hspec
    have hsame : s'.left = left' := hagree
    exact hsame ▸ hspec

/-- The walks from a list of start nodes agree. -/
theorem agrees_foldlM {g : Digraph α κ} (hkey : g.KeyDetermined) {starts : List α}
    (hcov : g.Covers starts) (nodes : List α) (hnodes : ∀ a ∈ nodes, a ∈ g.nodes)
    (s : SortState α κ) (hleft : g.Left s.left) :
    OutcomesAgree (nodes.foldlM g.sortFrom s) (nodes.foldlM g.cycleFrom s.left) := by
  induction nodes generalizing s with
  | nil => rfl
  | cons start nodes ih =>
    have hstart := hnodes start (by simp)
    have hagree := agrees_from hkey hcov hstart s hleft
    have hspec := cycleFrom_spec hkey hcov hstart hleft
    rw [List.foldlM_cons, List.foldlM_cons]
    cases hsort : g.sortFrom s start with
    | error e =>
      cases hcycle : g.cycleFrom s.left start with
      | error c => trivial
      | ok left' => rw [hsort, hcycle] at hagree; exact hagree.elim
    | ok s' =>
      cases hcycle : g.cycleFrom s.left start with
      | error c => rw [hsort, hcycle] at hagree; exact hagree.elim
      | ok left' =>
        rw [hsort, hcycle] at hagree
        rw [hcycle] at hspec
        have hsame : s'.left = left' := hagree
        subst hsame
        -- Both have left the same nodes, none of which leads to a cycle.
        exact ih (fun a ha => hnodes a (by simp [ha])) s' hspec.1

/-- The sort succeeds exactly if the search finds no cycle. -/
theorem sort_isOk_iff {g : Digraph α κ} (hkey : g.KeyDetermined) {starts : List α}
    (hcov : g.Covers starts) :
    (∃ sorted, g.sort starts = .ok sorted) ↔ g.findCycle starts = none := by
  have hagree := agrees_foldlM hkey hcov starts hcov.starts ⟨[], [], []⟩ (left_nil g)
  -- Both end in the same way, so two of the four cases cannot be.
  unfold sort findCycle
  cases hsort : starts.foldlM g.sortFrom ⟨[], [], []⟩ with
  | error e =>
    cases hcycle : starts.foldlM g.cycleFrom [] with
    | error c => simp [Except.map]
    | ok left => rw [hsort, hcycle] at hagree; exact hagree.elim
  | ok s =>
    cases hcycle : starts.foldlM g.cycleFrom [] with
    | error c => rw [hsort, hcycle] at hagree; exact hagree.elim
    | ok left => simp [Except.map]

end ModuleGraph.Digraph
