import ModuleGraph.Proofs.Digraph.Unbounded
import ModuleGraph.Proofs.Outcome

/-!
# The sort as a recursion

`DepthFirst` is the depth-first algorithm by recursion on the nodes, with nothing that bounds it.
The sort keeps a stack of frames instead, each with the successors of a node that are still to be
looked at.  A frame stands for a call: looking at the rest of its successors is what the call has
still to do, and the nodes of the frames below are the path around it.  So a call that ends is a
number of steps of the sort that take the frame to its last successor (`DepthFirst.ends`), and both
list the same nodes in the same order or close a cycle at the same node.

## Key results

- `DepthFirst.ends`: what a call does, the loop of the sort does
- `RecursionEnds.sortEnds`: wherever the recursion ends, the sort ends with its outcome
- `calls_sortBelow`: the bounded recursion is not cut short
- `sort_recursive`: the sort and the recursion have the same outcome
-/

namespace ModuleGraph.Digraph

variable {α κ : Type}

/-! ### The recursion -/

/-- Walks from the nodes of a list, from left to right.  `path` has the keys of the nodes around the
walk, and the list that comes next the nodes that are finished, in the order of finishing. -/
inductive DepthFirst (g : Digraph α κ) :
    List κ → List α → List α → Except CycleFound (List α) → Prop
  | done (path : List κ) (finished : List α) : DepthFirst g path [] finished (.ok finished)
  /-- A finished node is skipped. -/
  | skip {path : List κ} {a : α} {rest finished : List α} {outcome : Except CycleFound (List α)}
      (hfinished : g.key a ∈ finished.map g.key)
      (hrest : DepthFirst g path rest finished outcome) :
      DepthFirst g path (a :: rest) finished outcome
  /-- A node of the path has been met again. -/
  | cycle {path : List κ} {a : α} {rest finished : List α}
      (hnew : g.key a ∉ finished.map g.key) (hpath : g.key a ∈ path) :
      DepthFirst g path (a :: rest) finished (.error ⟨⟩)
  /-- The walk from the successors of a node fails. -/
  | fail {path : List κ} {a : α} {rest finished : List α} {e : CycleFound}
      (hnew : g.key a ∉ finished.map g.key) (hpath : g.key a ∉ path)
      (hbelow : DepthFirst g (g.key a :: path) (g.successors a) finished (.error e)) :
      DepthFirst g path (a :: rest) finished (.error e)
  /-- A node is finished when the walk from its successors is. -/
  | finish {path : List κ} {a : α} {rest finished below : List α}
      {outcome : Except CycleFound (List α)}
      (hnew : g.key a ∉ finished.map g.key) (hpath : g.key a ∉ path)
      (hbelow : DepthFirst g (g.key a :: path) (g.successors a) finished (.ok below))
      (hrest : DepthFirst g path rest (below ++ [a]) outcome) :
      DepthFirst g path (a :: rest) finished outcome

/-- The recursion from the start nodes ends with an outcome; what has been finished last comes
first. -/
def RecursionEnds (g : Digraph α κ) (starts : List α) (outcome : Except CycleFound (List α)) :
    Prop :=
  ∃ r, g.DepthFirst [] starts [] r ∧ outcome = r.map List.reverse

/-- A call has one outcome at most. -/
theorem DepthFirst.unique {g : Digraph α κ} {path : List κ} {nodes finished : List α}
    {r r' : Except CycleFound (List α)} (h : g.DepthFirst path nodes finished r)
    (h' : g.DepthFirst path nodes finished r') : r = r' := by
  induction h generalizing r' with
  | done =>
    cases h'
    rfl
  -- Which rule applies is settled by the first node: whether it is finished, then whether it is on
  -- the path.
  | skip hfinished _ ih =>
    cases h' with
    | skip _ hrest' => exact ih hrest'
    | cycle hnew' => exact absurd hfinished hnew'
    | fail hnew' => exact absurd hfinished hnew'
    | finish hnew' => exact absurd hfinished hnew'
  | cycle hnew hpath =>
    cases h' with
    | skip hfinished' => exact absurd hfinished' hnew
    | cycle => rfl
    | fail _ hpath' => exact absurd hpath hpath'
    | finish _ hpath' => exact absurd hpath hpath'
  -- Whether its successors fail is settled by the outcome below, which is unique by induction.
  | fail hnew hpath _ ih =>
    cases h' with
    | skip hfinished' => exact absurd hfinished' hnew
    | cycle _ hpath' => exact absurd hpath' hpath
    | fail _ _ hbelow' => exact ih hbelow'
    | finish _ _ hbelow' => exact nomatch ih hbelow'
  | finish hnew hpath _ _ ihbelow ihrest =>
    cases h' with
    | skip hfinished' => exact absurd hfinished' hnew
    | cycle _ hpath' => exact absurd hpath' hpath
    | fail _ _ hbelow' => exact nomatch ihbelow hbelow'
    | finish _ _ hbelow' hrest' =>
      cases ihbelow hbelow'
      exact ihrest hrest'

/-- The recursion from the start nodes has one outcome at most. -/
theorem RecursionEnds.unique {g : Digraph α κ} {starts : List α}
    {r r' : Except CycleFound (List α)} (h : g.RecursionEnds starts r)
    (h' : g.RecursionEnds starts r') : r = r' := by
  obtain ⟨q, hq, rfl⟩ := h
  obtain ⟨q', hq', rfl⟩ := h'
  rw [hq.unique hq']

/-- The list of nodes has no part in a call. -/
theorem DepthFirst.withNodes {g : Digraph α κ} {path : List κ} {starts finished : List α}
    {r : Except CycleFound (List α)} (h : g.DepthFirst path starts finished r) (nodes : List α) :
    (g.withNodes nodes).DepthFirst path starts finished r := by
  induction h with
  | done path finished => exact .done path finished
  | skip hfinished _ ih => exact .skip hfinished ih
  | cycle hnew hpath => exact .cycle hnew hpath
  | fail hnew hpath _ ih => exact .fail hnew hpath ih
  | finish hnew hpath _ _ ihbelow ihrest => exact .finish hnew hpath ihbelow ihrest

/-- The list of nodes has no part in the recursion. -/
theorem RecursionEnds.of_withNodes {g : Digraph α κ} {nodes starts : List α}
    {outcome : Except CycleFound (List α)} (h : (g.withNodes nodes).RecursionEnds starts outcome) :
    g.RecursionEnds starts outcome := by
  obtain ⟨r, hr, rfl⟩ := h
  exact ⟨r, hr.withNodes g.nodes, rfl⟩

/-! ### Room for calls -/

/-- The nodes of a graph leave room for calls below a path: its keys are distinct keys of nodes, and
all other nodes may still be entered. -/
structure HasRoom (g : Digraph α κ) (depth : Nat) (path : List κ) : Prop where
  nodup : path.Nodup
  known : path ⊆ g.nodes.map g.key
  room : g.nodes.length ≤ depth + path.length

/-- Where there is no room, the path has every node. -/
theorem HasRoom.mem_path {g : Digraph α κ} {path : List κ} (h : g.HasRoom 0 path) {a : α}
    (ha : a ∈ g.nodes) : g.key a ∈ path := by
  have hlength : (g.nodes.map g.key).length ≤ path.length := by simpa using h.room
  have hperm := (List.subperm_of_subset h.nodup h.known).perm_of_length_le hlength
  exact hperm.mem_iff.2 (List.mem_map_of_mem ha)

/-- Entering a node takes away room. -/
theorem HasRoom.enter {g : Digraph α κ} {depth : Nat} {path : List κ}
    (h : g.HasRoom (depth + 1) path) {a : α} (ha : a ∈ g.nodes) (hfresh : g.key a ∉ path) :
    g.HasRoom depth (g.key a :: path) where
  nodup := List.nodup_cons.2 ⟨hfresh, h.nodup⟩
  known := List.cons_subset.2 ⟨List.mem_map_of_mem ha, h.known⟩
  room := by
    have hroom := h.room
    rw [List.length_cons]
    omega

/-! ### The states of the sort -/

/-- The state of the sort with some frames on its stack, when some nodes have been finished. -/
def stateAt (g : Digraph α κ) (stack : List (Frame α)) (finished : List α) : SortState α κ :=
  ⟨stack, finished.reverse.map g.key, finished.reverse⟩

/-- The keys of the path, the innermost node first. -/
def keysOf (g : Digraph α κ) (stack : List (Frame α)) : List κ := stack.map fun f => g.key f.node

/-- The keys that have been left are those of the finished nodes. -/
theorem mem_left_stateAt {g : Digraph α κ} {stack : List (Frame α)} {finished : List α} {k : κ} :
    k ∈ (g.stateAt stack finished).left ↔ k ∈ finished.map g.key := by
  simp [stateAt]

variable [DecidableEq κ]

/-- Whether a key has been left is a matter of the finished nodes. -/
theorem contains_left_stateAt (g : Digraph α κ) (stack : List (Frame α)) (finished : List α)
    (k : κ) : (g.stateAt stack finished).left.contains k = true ↔ k ∈ finished.map g.key := by
  rw [List.contains_iff_mem, mem_left_stateAt]

/-- A key is on the path if the node of some frame has it. -/
theorem any_keysOf (g : Digraph α κ) (stack : List (Frame α)) (k : κ) :
    (stack.any fun f => g.key f.node == k) = true ↔ k ∈ g.keysOf stack := by
  simp [keysOf]

/-- The sort finishes a node that has no more successors. -/
theorem sortStep_finish (g : Digraph α κ) (a : α) (stack : List (Frame α)) (finished : List α) :
    g.sortStep (g.stateAt (⟨a, []⟩ :: stack) finished) =
      .next (g.stateAt stack (finished ++ [a])) := by
  simp [sortStep, stateAt]

section
variable {g : Digraph α κ} {a : α} {finished : List α}

/-- The sort skips a successor that has been finished. -/
theorem sortStep_skip (node : α) (rest : List α) (stack : List (Frame α))
    (hfinished : g.key a ∈ finished.map g.key) :
    g.sortStep (g.stateAt (⟨node, a :: rest⟩ :: stack) finished) =
      .next (g.stateAt (⟨node, rest⟩ :: stack) finished) :=
  if_pos ((g.contains_left_stateAt _ finished _).2 hfinished)

/-- The sort stops at a successor that is on its path. -/
theorem sortStep_cycle (node : α) (rest : List α) (stack : List (Frame α))
    (hnew : g.key a ∉ finished.map g.key)
    (hpath : g.key a ∈ g.keysOf (⟨node, a :: rest⟩ :: stack)) :
    g.sortStep (g.stateAt (⟨node, a :: rest⟩ :: stack) finished) = .done (.error ⟨⟩) := by
  have hleft := mt (g.contains_left_stateAt (⟨node, a :: rest⟩ :: stack) finished _).1 hnew
  exact (if_neg hleft).trans (if_pos ((g.any_keysOf _ _).2 hpath))

/-- The sort enters a successor that is new. -/
theorem sortStep_enter (node : α) (rest : List α) (stack : List (Frame α))
    (hnew : g.key a ∉ finished.map g.key)
    (hpath : g.key a ∉ g.keysOf (⟨node, a :: rest⟩ :: stack)) :
    g.sortStep (g.stateAt (⟨node, a :: rest⟩ :: stack) finished) =
      .next (g.stateAt (g.enter a :: ⟨node, rest⟩ :: stack) finished) := by
  have hleft := mt (g.contains_left_stateAt (⟨node, a :: rest⟩ :: stack) finished _).1 hnew
  exact (if_neg hleft).trans (if_neg (mt (g.any_keysOf _ _).1 hpath))

end

/-! ### Calls as steps of the sort -/

/-- The loop of the sort has a result once the call of its innermost frame has its outcome: it goes
on from there with no successors left in the frame, and a call that has failed ends it. -/
def GoesOnTo (g : Digraph α κ) (node : α) (stack : List (Frame α))
    (result : Except CycleFound (SortState α κ)) : Except CycleFound (List α) → Prop
  | .ok finished => Loop.Ends g.sortStep (g.stateAt (⟨node, []⟩ :: stack) finished) result
  | .error e => result = .error e

/-- What a call does, the loop of the sort does in the frame of the call. -/
theorem DepthFirst.ends {g : Digraph α κ} {path : List κ} {nodes finished : List α}
    {outcome : Except CycleFound (List α)} (h : g.DepthFirst path nodes finished outcome)
    {node : α} {stack : List (Frame α)} (hpath : path = g.keysOf (⟨node, nodes⟩ :: stack))
    {result : Except CycleFound (SortState α κ)} (hgoes : g.GoesOnTo node stack result outcome) :
    Loop.Ends g.sortStep (g.stateAt (⟨node, nodes⟩ :: stack) finished) result := by
  -- Induction on the calls; the frames of the calls around this one stay as they are.
  induction h generalizing node stack result with
  | done => exact hgoes
  | skip hfinished _ ih => exact .next (sortStep_skip node _ stack hfinished) (ih hpath hgoes)
  | cycle hnew hmet =>
    rw [hgoes]
    exact .done (sortStep_cycle node _ stack hnew (hpath ▸ hmet))
  | fail hnew hfresh _ ih =>
    have henter := sortStep_enter node _ stack hnew (hpath ▸ hfresh)
    exact .next henter (ih (by rw [hpath]; rfl) hgoes)
  | finish hnew hfresh _ _ ihbelow ihrest =>
    have henter := sortStep_enter node _ stack hnew (hpath ▸ hfresh)
    -- The walk below ends in the frame of the node, which is finished then.
    refine .next henter (ihbelow (by rw [hpath]; rfl) ?_)
    exact .next (g.sortStep_finish _ _ _) (ihrest hpath hgoes)

/-- The walk of the sort from one start node, which is a call from its successors. -/
theorem sortsFrom_of_depthFirst {g : Digraph α κ} {a : α} {finished : List α}
    (hnew : g.key a ∉ finished.map g.key) {outcome : Except CycleFound (List α)}
    (h : g.DepthFirst [g.key a] (g.successors a) finished outcome) :
    g.SortsFrom (g.stateAt [] finished) a
      (outcome.map fun below => g.stateAt [] (below ++ [a])) := by
  unfold SortsFrom WalksFrom
  rw [if_neg (mt mem_left_stateAt.1 hnew)]
  apply h.ends rfl
  cases outcome with
  | error e => rfl
  | ok below => exact .next (g.sortStep_finish a [] below) (.done rfl)

/-- The calls from the start nodes are the walks of the sort, one after the other. -/
theorem DepthFirst.inTurn {g : Digraph α κ} {path : List κ} {starts finished : List α}
    {outcome : Except CycleFound (List α)} (h : g.DepthFirst path starts finished outcome)
    (hpath : path = []) :
    InTurn g.SortsFrom (g.stateAt [] finished) starts (outcome.map (g.stateAt [])) := by
  induction h with
  | done => exact .nil _
  | skip hfinished _ ih =>
    refine .next ?_ (ih hpath)
    unfold SortsFrom WalksFrom
    rw [if_pos (mem_left_stateAt.2 hfinished)]
  -- No node is on the empty path.
  | cycle _ hmet =>
    rw [hpath] at hmet
    exact nomatch hmet
  | fail hnew _ hbelow _ =>
    subst hpath
    exact .fail (sortsFrom_of_depthFirst hnew hbelow)
  | finish hnew _ hbelow _ _ ih =>
    subst hpath
    exact .next (sortsFrom_of_depthFirst hnew hbelow) (ih rfl)

/-- Wherever the recursion ends, the sort ends with the same outcome. -/
theorem RecursionEnds.sortEnds {g : Digraph α κ} {starts : List α}
    {outcome : Except CycleFound (List α)} (h : g.RecursionEnds starts outcome) :
    g.SortEnds starts outcome := by
  obtain ⟨r, hr, rfl⟩ := h
  refine ⟨r.map (g.stateAt []), hr.inTurn rfl, ?_⟩
  cases r <;> rfl

/-! ### The recursion ends -/

/-- What the bounded recursion has done: it has made a call of the recursion, and the keys that it
has left are those of the nodes that it lists. -/
structure Calls (g : Digraph α κ) (path : List κ) (nodes : List α) (acc : List κ × List α)
    (r : Except CycleFound (List κ × List α)) : Prop where
  call : g.DepthFirst path nodes acc.2.reverse (r.map fun acc => acc.2.reverse)
  keys : ∀ acc', r = .ok acc' → acc'.1 = acc'.2.map g.key

/-- Where there is room, the bounded recursion is not cut short. -/
theorem calls_sortBelow {g : Digraph α κ} {starts : List α} (hcov : g.Covers starts)
    (depth : Nat) (path : List κ) (nodes : List α) (acc : List κ × List α)
    (hnodes : ∀ a ∈ nodes, a ∈ g.nodes) (hroom : g.HasRoom depth path)
    (hkeys : acc.1 = acc.2.map g.key) :
    g.Calls path nodes acc (g.sortBelow depth path nodes acc) := by
  have hmem {acc : List κ × List α} (hkeys : acc.1 = acc.2.map g.key) (k : κ) :
      acc.1.contains k = true ↔ k ∈ acc.2.reverse.map g.key := by
    simp [hkeys]
  induction depth, path, nodes, acc using sortBelow.induct g with
  | case1 depth path acc =>
    rw [sortBelow]
    refine ⟨.done path _, fun acc' h => ?_⟩
    cases h
    exact hkeys
  | case2 depth path acc a rest hleft ih =>
    rw [sortBelow.eq_def]
    dsimp only
    rw [if_pos hleft]
    obtain ⟨hcall, hkeys'⟩ := ih (fun b hb => hnodes b (by simp [hb])) hroom hkeys
    exact ⟨.skip ((hmem hkeys _).1 hleft) hcall, hkeys'⟩
  | case3 depth path acc a rest hleft hpath =>
    rw [sortBelow.eq_def]
    dsimp only
    rw [if_neg hleft, if_pos hpath]
    exact ⟨.cycle (mt (hmem hkeys _).2 hleft) (by simpa using hpath), fun _ h => nomatch h⟩
  | case4 path acc a rest hleft hpath =>
    -- Without room the path has the node already.
    exact absurd (hroom.mem_path (hnodes a (by simp))) (by simpa using hpath)
  | case5 path acc a rest hleft hpath depth e hbelow ih =>
    have hfresh : g.key a ∉ path := by simpa using hpath
    have ha : a ∈ g.nodes := hnodes a (by simp)
    obtain ⟨hcall, -⟩ := ih (hcov.successors a ha) (hroom.enter ha hfresh) hkeys
    rw [hbelow] at hcall
    rw [sortBelow, if_neg hleft, if_neg hpath]
    simp only [hbelow]
    exact ⟨.fail (mt (hmem hkeys _).2 hleft) hfresh hcall, fun _ h => nomatch h⟩
  | case6 path acc a rest hleft hpath depth left sorted hbelow ihbelow ihrest =>
    have hfresh : g.key a ∉ path := by simpa using hpath
    have ha : a ∈ g.nodes := hnodes a (by simp)
    obtain ⟨hcall, hkeysBelow⟩ := ihbelow (hcov.successors a ha) (hroom.enter ha hfresh) hkeys
    have hleft' : left = sorted.map g.key := hkeysBelow _ hbelow
    obtain ⟨hcallRest, hkeysRest⟩ := ihrest (fun b hb => hnodes b (by simp [hb])) hroom
      (by simp [hleft'])
    rw [hbelow] at hcall
    rw [List.reverse_cons] at hcallRest
    rw [sortBelow, if_neg hleft, if_neg hpath]
    simp only [hbelow]
    exact ⟨.finish (mt (hmem hkeys _).2 hleft) hfresh hcall hcallRest, hkeysRest⟩

/-- With nodes that cover everything, the bounded recursion has the outcome of the recursion. -/
theorem recursionEnds_sortRecursive {g : Digraph α κ} {starts : List α} (hcov : g.Covers starts) :
    g.RecursionEnds starts (g.sortRecursive starts) := by
  have hroom : g.HasRoom g.nodes.length [] := ⟨.nil, List.nil_subset _, Nat.le_refl _⟩
  obtain ⟨hcall, -⟩ := calls_sortBelow hcov g.nodes.length [] starts ([], []) hcov.starts hroom rfl
  refine ⟨_, hcall, ?_⟩
  unfold sortRecursive
  cases g.sortBelow g.nodes.length [] starts ([], []) with
  | error e => rfl
  | ok acc => simp [Except.map]

/-- Wherever finitely many nodes can be reached, the sort and the recursion have the same outcome
and no other.  The bounded ones have it too whenever their nodes cover everything. -/
theorem sort_recursive {g : Digraph α κ} (hkey : g.KeyDetermined) {starts : List α}
    (hfinite : (g.reachedFrom starts).Finite) :
    ∃ outcome, (∀ r, g.SortEnds starts r ↔ r = outcome) ∧
      (∀ r, g.RecursionEnds starts r ↔ r = outcome) ∧
      (g.Covers starts → g.sort starts = outcome ∧ g.sortRecursive starts = outcome) := by
  obtain ⟨nodes, hcov⟩ := exists_covers hfinite
  -- The bounded recursion on finitely many nodes has the outcome of both.
  have hrec : g.RecursionEnds starts ((g.withNodes nodes).sortRecursive starts) :=
    (recursionEnds_sortRecursive hcov).of_withNodes
  have hsort := hrec.sortEnds
  refine ⟨(g.withNodes nodes).sortRecursive starts, fun r => ⟨fun h => h.unique hsort, ?_⟩,
    fun r => ⟨fun h => h.unique hrec, ?_⟩, fun hcov' => ⟨?_, ?_⟩⟩
  · rintro rfl
    exact hsort
  · rintro rfl
    exact hrec
  · exact (sortEnds_sort hkey hcov').unique hsort
  · exact (recursionEnds_sortRecursive hcov').unique hrec

/-- Nodes that are met again after they have been finished, below other nodes and as start nodes. -/
def sharedNodes : Digraph Nat Nat where
  key := id
  successors
    | 0 => [1, 2]
    | 1 => [3, 4]
    | 2 => [1, 4]
    | 3 => [4]
    | _ => []
  nodes := [0, 1, 2, 3, 4]

/-- The second start node leads to the first one, and the third has been finished before. -/
theorem sort_recursive_sharedNodes :
    sharedNodes.KeyDetermined ∧ (sharedNodes.reachedFrom [2, 0, 3]).Finite ∧
      sharedNodes.SortEnds [2, 0, 3] (.ok [0, 2, 1, 3, 4]) ∧
      sharedNodes.RecursionEnds [2, 0, 3] (.ok [0, 2, 1, 3, 4]) := by
  have hkey : sharedNodes.KeyDetermined := keyDetermined_of_injective fun _ _ h => h
  have hcov : sharedNodes.Covers [2, 0, 3] := ⟨by decide, by decide⟩
  have hsort : sharedNodes.sort [2, 0, 3] = .ok [0, 2, 1, 3, 4] := by rfl
  obtain ⟨outcome, hends, hrec, hbounded⟩ := sort_recursive hkey hcov.finite
  have houtcome : outcome = .ok [0, 2, 1, 3, 4] := by rw [← (hbounded hcov).1, hsort]
  exact ⟨hkey, hcov.finite, (hends _).2 houtcome.symm, (hrec _).2 houtcome.symm⟩

end ModuleGraph.Digraph
