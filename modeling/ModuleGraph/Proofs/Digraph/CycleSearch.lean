import ModuleGraph.Proofs.Digraph.Trail
import ModuleGraph.Proofs.List
import Mathlib.Data.List.TakeWhile

/-!
# The cycle search finds the first cycle

`findCycle` never looks at a node again that it has left.  That is sound because no cycle can be
reached from such a node (`Left`), so every closing trail that the search has passed over is one
that comes later than the trail in hand or is none at all.  The invariant `Searching` says how the
stack of frames stands to the nodes that have been left, and `Ahead` which cycle the search is
still going to meet; no step changes the latter.

## Key results

- `findCycle_eq_some_iff`: the search reports a cycle exactly if that cycle is closed first
- `findCycle_eq_none_iff`: it reports none exactly if no cycle can be reached
-/

namespace ModuleGraph.Digraph

variable {α κ : Type}

/-- Nodes with one key lead to nodes with the same keys. -/
def KeyDetermined (g : Digraph α κ) : Prop :=
  ∀ a b, g.key a = g.key b → (g.successors a).map g.key = (g.successors b).map g.key

/-- The list of nodes has everything that a walk from the start nodes may meet. -/
structure Covers (g : Digraph α κ) (starts : List α) : Prop where
  starts : ∀ a ∈ starts, a ∈ g.nodes
  successors : ∀ a ∈ g.nodes, ∀ b ∈ g.successors a, b ∈ g.nodes

/-- Whether a node leads to a cycle. -/
def ReachesCycle (g : Digraph α κ) (a : α) : Prop := ∃ b, g.Reaches a b ∧ g.OnCycle b

/-! ### Walks and keys -/

/-- Where nodes are told apart by all that they are, the key determines where they lead. -/
theorem keyDetermined_of_injective {g : Digraph α κ} (h : Function.Injective g.key) :
    g.KeyDetermined := by
  intro a b hab
  rw [h hab]

/-- A successor of a node is, up to the key, a successor of every node with the same key. -/
theorem KeyDetermined.successor {g : Digraph α κ} (hkey : g.KeyDetermined) {a a' b : α}
    (h : g.key a = g.key a') (hb : b ∈ g.successors a) :
    ∃ b' ∈ g.successors a', g.key b' = g.key b := by
  have hmem : g.key b ∈ (g.successors a').map g.key := by
    rw [← hkey a a' h]
    exact List.mem_map_of_mem hb
  exact List.mem_map.1 hmem

/-- A walk can be followed, up to keys, from every node with the key of its first node. -/
theorem Reaches.lift {g : Digraph α κ} (hkey : g.KeyDetermined) {a b : α} (h : g.Reaches a b)
    {a' : α} (ha : g.key a = g.key a') : ∃ b', g.Reaches a' b' ∧ g.key b' = g.key b := by
  -- Induction on the walk: each step is followed by one to a successor with the same key.
  induction h generalizing a' with
  | refl a => exact ⟨a', .refl a', ha.symm⟩
  | step hs _ ih =>
    obtain ⟨c, hc, hkeyc⟩ := hkey.successor ha hs
    obtain ⟨b', hb', hkeyb⟩ := ih hkeyc.symm
    exact ⟨b', .step hc hb', hkeyb⟩

/-- Whether a node is on a cycle depends on its key alone. -/
theorem OnCycle.congr {g : Digraph α κ} (hkey : g.KeyDetermined) {a a' : α} (h : g.OnCycle a)
    (ha : g.key a = g.key a') : g.OnCycle a' := by
  obtain ⟨b, hb, c, hbc, hc⟩ := h
  obtain ⟨b', hb', hkeyb⟩ := hkey.successor ha hb
  obtain ⟨c', hc', hkeyc⟩ := hbc.lift hkey hkeyb.symm
  exact ⟨b', hb', c', hc', by rw [hkeyc, hc, ha]⟩

/-- Whether a node leads to a cycle depends on its key alone. -/
theorem ReachesCycle.congr {g : Digraph α κ} (hkey : g.KeyDetermined) {a a' : α}
    (h : g.ReachesCycle a) (ha : g.key a = g.key a') : g.ReachesCycle a' := by
  obtain ⟨b, hab, hb⟩ := h
  obtain ⟨b', hb', hkeyb⟩ := hab.lift hkey ha
  exact ⟨b', hb', hb.congr hkey hkeyb.symm⟩

/-- A walk that goes on behind its last node has a first step. -/
theorem Reaches.exists_successor {g : Digraph α κ} {a b c : α} (h : g.Reaches a b)
    (hc : c ∈ g.successors b) : ∃ s ∈ g.successors a, g.Reaches s c := by
  cases h with
  | refl => exact ⟨c, hc, .refl c⟩
  | step hs hrest => exact ⟨_, hs, hrest.trans (.step hc (.refl c))⟩

/-- A node that leads to a cycle has a successor that does. -/
theorem ReachesCycle.successor {g : Digraph α κ} (hkey : g.KeyDetermined) {a : α}
    (h : g.ReachesCycle a) : ∃ b ∈ g.successors a, g.ReachesCycle b := by
  obtain ⟨b, hab, hb⟩ := h
  cases hab with
  | refl =>
    obtain ⟨c, hc, d, hcd, hd⟩ := hb
    -- The cycle passes through the successor and comes back to it.
    exact ⟨c, hc, d, hcd, OnCycle.congr hkey ⟨c, hc, d, hcd, hd⟩ hd.symm⟩
  | step hs hrest => exact ⟨_, hs, b, hrest, hb⟩

/-! ### The invariant of the search -/

/-- The nodes that have been left do not lead to a cycle. -/
def Left (g : Digraph α κ) (left : List κ) : Prop := ∀ a, g.key a ∈ left → ¬ g.ReachesCycle a

/-- At first nothing has been left. -/
theorem left_nil (g : Digraph α κ) : g.Left [] := by
  intro a ha
  exact nomatch ha

/-- How the frames of a search stand, the innermost first: each node is a successor of the next
one, and its own successors are still to be looked at, have been left, or (`above`) are being
walked below it. -/
def Searching (g : Digraph α κ) (left : List κ) : List κ → List (Frame α) → Prop
  | _, [] => True
  | above, f :: below =>
    (∀ b ∈ f.rest, b ∈ g.successors f.node) ∧
      (∀ b ∈ g.successors f.node, b ∈ f.rest ∨ g.key b ∈ left ∨ g.key b ∈ above) ∧
      (∀ h ∈ below.head?, f.node ∈ g.successors h.node) ∧
      g.Searching left [g.key f.node] below

/-- The nodes of the path, the first one in front. -/
def pathOf (stack : List (Frame α)) : List α := stack.reverse.map (·.node)

@[simp] theorem pathOf_nil : pathOf ([] : List (Frame α)) = [] := rfl

@[simp] theorem pathOf_cons (f : Frame α) (stack : List (Frame α)) :
    pathOf (f :: stack) = pathOf stack ++ [f.node] := by
  simp [pathOf]

/-- The cycle that a search with this stack is still going to meet, when `nodes` are the start
nodes behind it. -/
def Ahead (g : Digraph α κ) (nodes : List α) : List (Frame α) → Cycle α → Prop
  | [], c => g.FirstFrom [] nodes c
  | f :: below, c =>
    g.FirstFrom (pathOf (f :: below)) f.rest c ∨
      g.NoneFrom (pathOf (f :: below)) f.rest ∧ g.Ahead nodes below c

theorem ahead_cons (g : Digraph α κ) (nodes : List α) (f : Frame α) (below : List (Frame α))
    (c : Cycle α) :
    g.Ahead nodes (f :: below) c ↔
      g.FirstFrom (pathOf below ++ [f.node]) f.rest c ∨
        g.NoneFrom (pathOf below ++ [f.node]) f.rest ∧ g.Ahead nodes below c := by
  rw [Ahead, pathOf_cons]

/-- The innermost node of a path can be reached from every node of it. -/
theorem Searching.reaches {g : Digraph α κ} {left above : List κ} {f : Frame α}
    {below : List (Frame α)} (h : g.Searching left above (f :: below)) :
    ∀ a ∈ pathOf (f :: below), g.Reaches a f.node := by
  -- Induction on the stack: each node is a successor of the next one.
  induction below generalizing f above with
  | nil =>
    intro a ha
    simp only [pathOf_cons, pathOf_nil, List.nil_append, List.mem_singleton] at ha
    exact ha ▸ .refl _
  | cons h' below ih =>
    obtain ⟨-, -, hchain, hbelow⟩ := h
    intro a ha
    rw [pathOf_cons, List.mem_append, List.mem_singleton] at ha
    rcases ha with ha | rfl
    · exact (ih hbelow a ha).trans (.step (hchain h' rfl) (.refl _))
    · exact .refl _

/-- Leaving more nodes does not disturb a search. -/
theorem Searching.mono {g : Digraph α κ} {left left' above above' : List κ}
    {stack : List (Frame α)} (h : g.Searching left above stack)
    (hleft : ∀ k ∈ left, k ∈ left') (habove : ∀ k ∈ above, k ∈ left' ∨ k ∈ above') :
    g.Searching left' above' stack := by
  induction stack generalizing above above' with
  | nil => trivial
  | cons f below ih =>
    obtain ⟨hrest, hsucc, hchain, hbelow⟩ := h
    refine ⟨hrest, fun b hb => ?_, hchain, ih hbelow fun k hk => .inr hk⟩
    rcases hsucc b hb with hb | hb | hb
    · exact .inl hb
    · exact .inr (.inl (hleft _ hb))
    · exact .inr (habove _ hb)

/-- A candidate that leads back to the path leads to a cycle. -/
theorem Searching.reachesCycle {g : Digraph α κ} (hkey : g.KeyDetermined)
    {left above : List κ} {f : Frame α} {below : List (Frame α)}
    (h : g.Searching left above (f :: below)) {b d : α} (hb : b ∈ f.rest)
    (hbd : g.Reaches b d) (hd : g.key d ∈ (pathOf (f :: below)).map g.key) :
    g.ReachesCycle b := by
  obtain ⟨p, hp, hkeyp⟩ := List.mem_map.1 hd
  -- The path leads from `p` to the candidate, and the candidate back to `p`.
  obtain ⟨s, hs, hsb⟩ := (h.reaches p hp).exists_successor (h.1 b hb)
  have hon : g.OnCycle p := ⟨s, hs, d, hsb.trans hbd, hkeyp.symm⟩
  exact ⟨d, hbd, hon.congr hkey hkeyp⟩

/-- Nothing is closed through a candidate that does not lead to a cycle. -/
theorem Searching.not_closesFrom {g : Digraph α κ} (hkey : g.KeyDetermined)
    {left above : List κ} {f : Frame α} {below : List (Frame α)}
    (h : g.Searching left above (f :: below)) {b : α} {rest : List α} (hf : f.rest = b :: rest)
    (hb : ¬ g.ReachesCycle b) (choices : List Nat) (c : Cycle α) :
    ¬ g.ClosesFrom (pathOf below ++ [f.node]) (b :: rest) (0 :: choices) c := by
  intro hc
  rw [← pathOf_cons] at hc
  rcases hc.reaches with ⟨d, hbd, hd⟩ | hcycle
  · exact hb (h.reachesCycle hkey (by simp [hf]) hbd hd)
  · exact hb hcycle

/-- What holds of a search before every step. -/
structure SearchInv (g : Digraph α κ) (s : CycleState α κ) : Prop where
  left : g.Left s.left
  searching : g.Searching s.left [] s.stack
  nodup : ((pathOf s.stack).map g.key).Nodup

/-- What holds of a search from one start node, which began with `left`, before every step. -/
structure FromStart (g : Digraph α κ) (start : α) (left : List κ) (s : CycleState α κ) : Prop where
  inv : g.SearchInv s
  nodes : ∀ f ∈ s.stack, ∀ b ∈ f.rest, b ∈ g.nodes
  grows : ∀ k ∈ left, k ∈ s.left
  entered : g.key start ∈ s.left ∨ g.key start ∈ (pathOf s.stack).map g.key
  ahead : ∀ nodes c, g.Ahead nodes s.stack c → g.FirstFrom [] (start :: nodes) c

/-- What a search from one start node gives. -/
def LeavesOrFinds (g : Digraph α κ) (start : α) (left : List κ) :
    Except (Cycle α) (List κ) → Prop
  | .ok left' => g.Left left' ∧ (∀ k ∈ left, k ∈ left') ∧ g.key start ∈ left'
  | .error c => ∀ nodes, g.FirstFrom [] (start :: nodes) c

/-- A node can be entered when no path is being walked. -/
theorem searchInv_enter (g : Digraph α κ) (start : α) {left : List κ} (hleft : g.Left left) :
    g.SearchInv ⟨[g.enter start], left⟩ where
  left := hleft
  searching := ⟨fun _ hb => hb, fun _ hb => .inl hb, by simp, trivial⟩
  nodup := by simp

/-- Where a walk begins, what it may look at next is among the nodes. -/
theorem rest_enter {g : Digraph α κ} {starts : List α} (hcov : g.Covers starts) {start : α}
    (hstart : start ∈ g.nodes) : ∀ f ∈ [g.enter start], ∀ b ∈ f.rest, b ∈ g.nodes := by
  intro f hf b hb
  rw [List.mem_singleton] at hf
  subst hf
  exact hcov.successors start hstart b hb

/-- A search begins with its invariant. -/
theorem fromStart_enter {g : Digraph α κ} {starts : List α} (hcov : g.Covers starts) {start : α}
    (hstart : start ∈ g.nodes) {left : List κ} (hleft : g.Left left) :
    g.FromStart start left ⟨[g.enter start], left⟩ where
  inv := g.searchInv_enter start hleft
  nodes := rest_enter hcov hstart
  grows := fun _ hk => hk
  entered := .inr (by simp [enter])
  ahead := by
    intro nodes c hc
    rw [ahead_cons] at hc
    simp only [pathOf_nil, List.nil_append, enter] at hc
    -- A cycle is closed below the start node, or, with none there, by further start nodes.
    rcases hc with hc | ⟨hnone, hc⟩
    · exact g.firstFrom_below [] start nodes c (by simp) hc
    · refine g.firstFrom_rest [] start nodes c (fun choices c' h => ?_) hc
      exact hnone _ _ ((g.closesFrom_zero _ _ _ _ _ (by simp)).1 h)

/-- A start node that does not lead to a cycle can be passed over. -/
theorem firstFrom_skip {g : Digraph α κ} {start : α} (h : ¬ g.ReachesCycle start)
    {nodes : List α} {c : Cycle α} (hc : g.FirstFrom [] nodes c) :
    g.FirstFrom [] (start :: nodes) c := by
  refine g.firstFrom_rest [] start nodes c (fun choices c' hclose => ?_) hc
  rcases hclose.reaches with ⟨b, -, hb⟩ | hcycle
  · exact nomatch hb
  · exact h hcycle

/-- The bound on the steps of a walk counts every node together with its successors. -/
theorem walkSteps_eq (g : Digraph α κ) :
    g.walkSteps = (g.nodes.map fun a => (g.successors a).length + 1).sum + 1 := by
  rw [walkSteps, List.length_flatMap, List.sum_map_add]
  simp [Nat.add_comm]

/-! ### Steps -/

variable [DecidableEq κ]

/-- Whether a stack has a node is a matter of the keys of its path. -/
theorem any_key_iff (g : Digraph α κ) (stack : List (Frame α)) (k : κ) :
    (stack.any fun f => g.key f.node == k) = true ↔ k ∈ (pathOf stack).map g.key := by
  simp [pathOf]

/-- What a step that goes on may do. -/
inductive Moves (g : Digraph α κ) : CycleState α κ → CycleState α κ → Prop
  /-- The innermost node has no more successors and is left. -/
  | leave (node : α) (stack : List (Frame α)) (left : List κ) :
      Moves g ⟨⟨node, []⟩ :: stack, left⟩ ⟨stack, g.key node :: left⟩
  /-- The next successor has been left and is passed over. -/
  | skip (node b : α) (rest : List α) (stack : List (Frame α)) (left : List κ)
      (hb : g.key b ∈ left) :
      Moves g ⟨⟨node, b :: rest⟩ :: stack, left⟩ ⟨⟨node, rest⟩ :: stack, left⟩
  /-- The next successor is new and is entered. -/
  | enter (node b : α) (rest : List α) (stack : List (Frame α)) (left : List κ)
      (hleft : g.key b ∉ left) (hpath : g.key b ∉ (pathOf stack ++ [node]).map g.key) :
      Moves g ⟨⟨node, b :: rest⟩ :: stack, left⟩
        ⟨g.enter b :: ⟨node, rest⟩ :: stack, left⟩

/-- A step that goes on is one of these moves. -/
theorem cycleStep_next {g : Digraph α κ} {s s' : CycleState α κ} (h : g.cycleStep s = .next s') :
    g.Moves s s' := by
  obtain ⟨stack, left⟩ := s
  unfold cycleStep at h
  match stack with
  | [] => exact nomatch h
  | ⟨node, []⟩ :: stack =>
    cases h
    exact .leave node stack left
  | ⟨node, b :: rest⟩ :: stack =>
    dsimp only at h
    split at h
    · next hleft =>
      cases h
      exact .skip node b rest stack left (by simpa using hleft)
    · next hleft =>
      split at h
      · exact nomatch h
      · next hpath =>
        cases h
        -- The search compares keys, `Moves` asks for the keys of the whole path.
        refine .enter node b rest stack left (by simpa using hleft) fun hmem => hpath ?_
        rw [any_key_iff, pathOf_cons]
        exact hmem

/-- A step that finds a cycle has met a node of the path again. -/
theorem cycleStep_error (g : Digraph α κ) (s : CycleState α κ) (c : Cycle α)
    (h : g.cycleStep s = .done (.error c)) :
    ∃ node b rest stack, s.stack = ⟨node, b :: rest⟩ :: stack ∧
      g.key b ∈ (pathOf s.stack).map g.key ∧ c = g.closeAt (g.key b) s.stack := by
  obtain ⟨stack, left⟩ := s
  unfold cycleStep at h
  match stack with
  | [] => exact nomatch h
  | ⟨node, []⟩ :: stack => exact nomatch h
  | ⟨node, b :: rest⟩ :: stack =>
    dsimp only at h
    split at h
    · exact nomatch h
    · split at h
      · next hpath =>
        cases h
        exact ⟨node, b, rest, stack, rfl, (g.any_key_iff _ _).1 hpath, rfl⟩
      · exact nomatch h

/-- A step that ends the search without a cycle has nothing on the stack. -/
theorem cycleStep_ok (g : Digraph α κ) (s : CycleState α κ) (left : List κ)
    (h : g.cycleStep s = .done (.ok left)) : s.stack = [] ∧ left = s.left := by
  obtain ⟨stack, left'⟩ := s
  unfold cycleStep at h
  match stack with
  | [] => exact ⟨rfl, by cases h; rfl⟩
  | ⟨node, []⟩ :: stack => exact nomatch h
  | ⟨node, b :: rest⟩ :: stack =>
    dsimp only at h
    split at h
    · exact nomatch h
    · split at h <;> exact nomatch h

/-- A search keeps its invariant. -/
theorem SearchInv.next {g : Digraph α κ} (hkey : g.KeyDetermined) {s s' : CycleState α κ}
    (hs : g.SearchInv s) (h : g.cycleStep s = .next s') : g.SearchInv s' := by
  obtain ⟨hleft, hsearch, hnd⟩ := hs
  cases cycleStep_next h with
  | leave node stack left =>
    -- All successors of the node have been left, so no cycle can be reached from it either.
    obtain ⟨-, hsucc, -, hbelow⟩ := hsearch
    rw [pathOf_cons, List.map_append] at hnd
    refine ⟨fun a ha hcycle => ?_, hbelow.mono (fun k hk => List.mem_cons_of_mem _ hk) ?_,
      (List.nodup_append.1 hnd).1⟩
    · rcases List.mem_cons.1 ha with ha | ha
      · obtain ⟨d, hd, hdcycle⟩ := (hcycle.congr hkey ha).successor hkey
        rcases hsucc d hd with hd | hd | hd
        · exact nomatch hd
        · exact hleft d hd hdcycle
        · exact nomatch hd
      · exact hleft a ha hcycle
    · intro k hk
      rw [List.mem_singleton] at hk
      exact .inl (hk ▸ List.mem_cons_self)
  | skip node b rest stack left hb =>
    -- The candidate moves from those that are still to be looked at to those that have been left.
    obtain ⟨hrest, hsucc, hchain, hbelow⟩ := hsearch
    refine ⟨hleft, ⟨fun a ha => hrest a (by simp [ha]), fun a ha => ?_, hchain, hbelow⟩, ?_⟩
    · rcases hsucc a ha with ha | ha
      · rcases List.mem_cons.1 ha with rfl | ha
        · exact .inr (.inl hb)
        · exact .inl ha
      · exact .inr ha
    · simpa using hnd
  | enter node b rest stack left _ hpath =>
    -- The candidate is walked below the node, with all of its successors still to be looked at.
    obtain ⟨hrest, hsucc, hchain, hbelow⟩ := hsearch
    refine ⟨hleft, ⟨fun a ha => ha, fun a ha => .inl ha, fun f hf => ?_, ?_⟩, ?_⟩
    · cases hf
      exact hrest b (by simp)
    · refine ⟨fun a ha => hrest a (by simp [ha]), fun a ha => ?_, hchain, hbelow⟩
      rcases hsucc a ha with ha | ha | ha
      · rcases List.mem_cons.1 ha with rfl | ha
        · exact .inr (.inr (by simp [enter]))
        · exact .inl ha
      · exact .inr (.inl ha)
      · exact nomatch ha
    · rw [pathOf_cons, List.map_append]
      refine List.nodup_append.2 ⟨by simpa using hnd, by simp, ?_⟩
      intro k hk k' hk' heq
      rw [List.map_singleton, List.mem_singleton] at hk'
      exact hpath (by simpa [heq, hk', Digraph.enter] using hk)

/-- No step changes which cycle the search is going to meet. -/
theorem SearchInv.ahead_next {g : Digraph α κ} (hkey : g.KeyDetermined) {s s' : CycleState α κ}
    (hs : g.SearchInv s) (h : g.cycleStep s = .next s') {nodes : List α} {c : Cycle α}
    (hc : g.Ahead nodes s'.stack c) : g.Ahead nodes s.stack c := by
  obtain ⟨hleft, hsearch, -⟩ := hs
  cases cycleStep_next h with
  | leave node stack left => exact .inr ⟨g.noneFrom_nil _, hc⟩
  | skip node b rest stack left hb =>
    -- The candidate has been left: closing choices do not take it.
    have hnone := hsearch.not_closesFrom hkey rfl (hleft b hb)
    rw [ahead_cons] at hc ⊢
    rcases hc with hc | ⟨hrest, hc⟩
    · exact .inl (g.firstFrom_rest _ _ _ _ hnone hc)
    · exact .inr ⟨g.noneFrom_cons _ _ _ hnone hrest, hc⟩
  | enter node b rest stack left _ hpath =>
    rw [ahead_cons, ahead_cons, pathOf_cons] at hc
    rw [ahead_cons]
    rcases hc with hc | ⟨hnone, hc⟩
    · exact .inl (g.firstFrom_below _ _ _ _ hpath hc)
    · -- Nothing is closed behind the candidate, so the others decide.
      have hbelow : ∀ choices c',
          ¬ g.ClosesFrom (pathOf stack ++ [node]) (b :: rest) (0 :: choices) c' :=
        fun choices c' hclose => hnone _ _ ((g.closesFrom_zero _ _ _ _ _ hpath).1 hclose)
      rcases hc with hc | ⟨hrest, hc⟩
      · exact .inl (g.firstFrom_rest _ _ _ _ hbelow hc)
      · exact .inr ⟨g.noneFrom_cons _ _ _ hbelow hrest, hc⟩

/-- The cycle that a path closes at one of its keys begins with that key. -/
theorem head_closeAt (g : Digraph α κ) (k : κ) (stack : List (Frame α))
    (hk : k ∈ (pathOf stack).map g.key) : (g.closeAt k stack).cycle.head?.map g.key = some k := by
  obtain ⟨a, ha, hkey⟩ := List.mem_map.1 hk
  -- The key is on the path, so the cycle is not empty.
  have hne : (g.closeAt k stack).cycle ≠ [] := by
    intro hnil
    have := List.dropWhile_eq_nil_iff.1 hnil a ha
    simp [hkey] at this
  obtain ⟨first, tail, hdrop⟩ := List.exists_cons_of_ne_nil hne
  have hfirst := List.head?_dropWhile_not (fun a => g.key a != k) (pathOf stack)
  have hclose : (pathOf stack).dropWhile (fun a => g.key a != k) = first :: tail := hdrop
  rw [hclose] at hfirst
  rw [hdrop]
  simpa using hfirst

/-- The cycle that a step finds is the one that the search was going to meet. -/
theorem SearchInv.ahead_found {g : Digraph α κ} {s : CycleState α κ} (hs : g.SearchInv s)
    {c : Cycle α} (h : g.cycleStep s = .done (.error c)) (nodes : List α) :
    g.Ahead nodes s.stack c := by
  obtain ⟨node, b, rest, stack, hstack, hb, rfl⟩ := g.cycleStep_error s c h
  have hhead := g.head_closeAt (g.key b) s.stack hb
  have hnd := hs.nodup
  rw [hstack] at hhead hnd ⊢
  -- The candidate is on the path, so the choice of it closes a cycle at once.
  exact .inl (g.firstFrom_of_mem _ _ _ _ hnd List.takeWhile_append_dropWhile hhead)

/-! ### The search ends -/

/-- The steps that a search may still take: every frame looks at its other successors and is left,
and every node that has not been entered is entered with all of its successors. -/
def pending (g : Digraph α κ) (s : CycleState α κ) : Nat :=
  (s.stack.map fun f => f.rest.length + 1).sum +
    ((g.nodes.filter fun a => g.key a ∉ s.left ++ (pathOf s.stack).map g.key).map
      fun a => (g.successors a).length + 1).sum

/-- A search stays within the nodes of the graph. -/
theorem nodes_cycleStep {g : Digraph α κ} {starts : List α} (hcov : g.Covers starts)
    {s s' : CycleState α κ} (h : g.cycleStep s = .next s')
    (hs : ∀ f ∈ s.stack, ∀ b ∈ f.rest, b ∈ g.nodes) :
    ∀ f ∈ s'.stack, ∀ b ∈ f.rest, b ∈ g.nodes := by
  cases cycleStep_next h with
  | leave node stack left => exact fun f hf => hs f (by simp [hf])
  | skip node b rest stack left _ =>
    intro f hf a ha
    rcases List.mem_cons.1 hf with rfl | hf
    · exact hs ⟨node, b :: rest⟩ (by simp) a (by simp [ha])
    · exact hs f (by simp [hf]) a ha
  | enter node b rest stack left _ _ =>
    -- New are only the successors of `b`, which is a node.
    have hb : b ∈ g.nodes := hs ⟨node, b :: rest⟩ (by simp) b (by simp)
    intro f hf a ha
    rcases List.mem_cons.1 hf with rfl | hf
    · exact hcov.successors b hb a ha
    · rcases List.mem_cons.1 hf with rfl | hf
      · exact hs ⟨node, b :: rest⟩ (by simp) a (by simp [ha])
      · exact hs f (by simp [hf]) a ha

/-- Every step leaves fewer steps to take. -/
theorem pending_cycleStep {g : Digraph α κ} {s s' : CycleState α κ}
    (h : g.cycleStep s = .next s') (hs : ∀ f ∈ s.stack, ∀ b ∈ f.rest, b ∈ g.nodes) :
    g.pending s' < g.pending s := by
  cases cycleStep_next h with
  | leave node stack left =>
    -- The key of the node moves from the path to the nodes that have been left.
    have hfilter : (g.nodes.filter fun a =>
          g.key a ∉ left ++ (pathOf (⟨node, []⟩ :: stack)).map g.key) =
        g.nodes.filter fun a => g.key a ∉ g.key node :: left ++ (pathOf stack).map g.key := by
      apply List.filter_congr
      intro a _
      simp only [pathOf_cons, List.map_append, List.map_cons, List.map_nil, List.mem_append,
        List.mem_cons, List.not_mem_nil, or_false, decide_eq_decide]
      tauto
    simp only [pending, hfilter, List.map_cons, List.sum_cons, List.length_nil]
    omega
  | skip node b rest stack left _ =>
    simp only [pending, pathOf_cons, List.map_cons, List.sum_cons, List.length_cons]
    omega
  | enter node b rest stack left hleft hpath =>
    have hb : b ∈ g.nodes := hs ⟨node, b :: rest⟩ (by simp) b (by simp)
    -- The node is new, so its own steps leave the sum over the nodes and enter the stack.
    have hsum := List.sum_filter_add_le g.nodes (fun a => (g.successors a).length + 1)
      (fun a => g.key a ∉ left ++ (pathOf (⟨node, b :: rest⟩ :: stack)).map g.key)
      (fun a => g.key a ∉ left ++ (pathOf (g.enter b :: ⟨node, rest⟩ :: stack)).map g.key)
      (by
        intro a _ ha
        simp only [pathOf_cons, List.map_append, List.mem_append, decide_eq_true_eq] at ha ⊢
        tauto)
      b hb
      (by simpa using ⟨hleft, by simpa using hpath⟩)
      (by simp [enter])
    simp only [pending]
    simp only [List.map_cons, List.sum_cons, List.length_cons, enter] at hsum ⊢
    omega

/-- At a start node the bound on the steps of a walk suffices. -/
theorem pending_start {g : Digraph α κ} {start : α} (hstart : start ∈ g.nodes) (left : List κ) :
    g.pending ⟨[g.enter start], left⟩ < g.walkSteps := by
  have hsum := List.sum_filter_add_le g.nodes (fun a => (g.successors a).length + 1)
    (fun _ => true) (fun a => g.key a ∉ left ++ (pathOf [g.enter start]).map g.key)
    (fun _ _ _ => rfl) start hstart rfl (by simp [enter])
  rw [List.filter_true] at hsum
  simp only [pending, walkSteps_eq, enter, List.map_cons, List.map_nil, List.sum_cons, List.sum_nil]
    at hsum ⊢
  omega

/-! ### The search from the start nodes -/

/-- A step keeps the invariant of a search from one start node. -/
theorem FromStart.next {g : Digraph α κ} (hkey : g.KeyDetermined) {starts : List α}
    (hcov : g.Covers starts) {start : α} {left : List κ} {s s' : CycleState α κ}
    (hs : g.FromStart start left s) (h : g.cycleStep s = .next s') :
    g.FromStart start left s' where
  inv := hs.inv.next hkey h
  nodes := nodes_cycleStep hcov h hs.nodes
  grows := by
    have hgrows := hs.grows
    -- Only a node that is done with is left, and what has been left stays so.
    cases cycleStep_next h with
    | leave node stack _ => exact fun k hk => List.mem_cons_of_mem _ (hgrows k hk)
    | skip => exact hgrows
    | enter => exact hgrows
  entered := by
    have hentered := hs.entered
    cases cycleStep_next h
    -- The start is on the path or has been left, whichever of the two lists a move changes.
    all_goals
      simp only [pathOf_cons, List.map_append, List.mem_append, List.map_cons, List.map_nil,
        List.mem_cons, List.not_mem_nil, or_false] at hentered ⊢
      tauto
  ahead := fun nodes c hc => hs.ahead nodes c (hs.inv.ahead_next hkey h hc)

/-- The bound on the steps suffices, and the last step has left the start node or found the cycle
that is closed first. -/
theorem run_cycleStep {g : Digraph α κ} (hkey : g.KeyDetermined) {starts : List α}
    (hcov : g.Covers starts) {start : α} (hstart : start ∈ g.nodes) {left : List κ}
    (hleft : g.Left left) :
    ∃ r, Loop.run g.cycleStep g.walkSteps ⟨[g.enter start], left⟩ = some r ∧
      g.LeavesOrFinds start left r := by
  have hbegin := fromStart_enter hcov hstart hleft
  -- Every step keeps the invariant and leaves fewer steps to take.
  have hends := Loop.run_isSome (g.FromStart start left) g.pending
    (fun s s' hs h => ⟨hs.next hkey hcov h, pending_cycleStep h hs.nodes⟩)
    hbegin (pending_start hstart left)
  obtain ⟨r, hr⟩ := Option.isSome_iff_exists.1 hends
  refine ⟨r, hr, Loop.run_post (g.FromStart start left) (g.LeavesOrFinds start left)
    (fun s s' hs h => hs.next hkey hcov h) (fun s r hs h => ?_) hbegin hr⟩
  cases r with
  | ok left' =>
    obtain ⟨hstack, rfl⟩ := g.cycleStep_ok s left' h
    have hentered := hs.entered
    rw [hstack] at hentered
    exact ⟨hs.inv.left, hs.grows, by simpa using hentered⟩
  | error c => exact fun nodes => hs.ahead nodes c (hs.inv.ahead_found h nodes)

/-- A search from one start node leaves it, or finds the cycle that is closed first. -/
theorem cycleFrom_spec {g : Digraph α κ} (hkey : g.KeyDetermined) {starts : List α}
    (hcov : g.Covers starts) {start : α} (hstart : start ∈ g.nodes) {left : List κ}
    (hleft : g.Left left) : g.LeavesOrFinds start left (g.cycleFrom left start) := by
  unfold cycleFrom
  split
  · next hmem => exact ⟨hleft, fun _ hk => hk, by simpa using hmem⟩
  · obtain ⟨r, hr, hspec⟩ := run_cycleStep hkey hcov hstart hleft
    rw [hr]
    exact hspec

/-- A search from some start nodes leaves them all, or finds the cycle that is closed first. -/
theorem foldlM_cycleFrom {g : Digraph α κ} (hkey : g.KeyDetermined) {starts : List α}
    (hcov : g.Covers starts) (nodes : List α) (hnodes : ∀ a ∈ nodes, a ∈ g.nodes)
    {left : List κ} (hleft : g.Left left) :
    match nodes.foldlM g.cycleFrom left with
    | .ok left' => g.Left left' ∧ (∀ k ∈ left, k ∈ left') ∧ ∀ a ∈ nodes, g.key a ∈ left'
    | .error c => g.FirstFrom [] nodes c := by
  -- Induction on the start nodes; what has been left so far is never looked at again.
  induction nodes generalizing left with
  | nil => exact ⟨hleft, fun _ hk => hk, by simp⟩
  | cons start nodes ih =>
    have hspec := cycleFrom_spec hkey hcov (hnodes start (by simp)) hleft
    rw [List.foldlM_cons]
    cases hfrom : g.cycleFrom left start with
    | error c =>
      rw [hfrom] at hspec
      exact hspec nodes
    | ok left' =>
      rw [hfrom] at hspec
      obtain ⟨hleft', hgrows, hmem⟩ := hspec
      have hrest := ih (fun a ha => hnodes a (by simp [ha])) hleft'
      show match nodes.foldlM g.cycleFrom left' with
        | .ok left' => _
        | .error c => _
      cases hfold : nodes.foldlM g.cycleFrom left' with
      | error c =>
        rw [hfold] at hrest
        -- The start node has been left, so it does not lead to a cycle.
        exact firstFrom_skip (hleft' start hmem) hrest
      | ok left'' =>
        rw [hfold] at hrest
        obtain ⟨hleft'', hgrows', hall⟩ := hrest
        refine ⟨hleft'', fun k hk => hgrows' k (hgrows k hk), fun a ha => ?_⟩
        rcases List.mem_cons.1 ha with rfl | ha
        · exact hgrows' _ hmem
        · exact hall a ha

/-- The search ends without a cycle exactly if no start node leads to one. -/
theorem findCycle_eq_none_iff {g : Digraph α κ} (hkey : g.KeyDetermined) {starts : List α}
    (hcov : g.Covers starts) : g.findCycle starts = none ↔ ∀ a ∈ starts, ¬ g.ReachesCycle a := by
  have hspec := foldlM_cycleFrom hkey hcov starts hcov.starts (left_nil g)
  unfold findCycle
  cases hfold : starts.foldlM g.cycleFrom [] with
  | ok left =>
    rw [hfold] at hspec
    exact ⟨fun _ a ha => hspec.1 a (hspec.2.2 a ha), fun _ => rfl⟩
  | error c =>
    rw [hfold] at hspec
    -- The cycle that was found is led to by a start node.
    obtain ⟨choices, hc, -⟩ := hspec
    obtain ⟨a, ha, b, -, hab, hb⟩ := Closes.onCycle hc
    exact ⟨fun h => (nomatch h), fun h => absurd ⟨b, hab, hb⟩ (h a ha)⟩

/-- The search finds a cycle exactly if that cycle is closed first. -/
theorem findCycle_eq_some_iff {g : Digraph α κ} (hkey : g.KeyDetermined) {starts : List α}
    (hcov : g.Covers starts) (c : Cycle α) :
    g.findCycle starts = some c ↔ g.ClosesFirst starts c := by
  have hspec := foldlM_cycleFrom hkey hcov starts hcov.starts (left_nil g)
  have hnone := findCycle_eq_none_iff hkey hcov
  unfold findCycle at hnone ⊢
  cases hfold : starts.foldlM g.cycleFrom [] with
  -- The search has found none, so there is none to be closed.
  | ok left =>
    rw [hfold] at hnone
    refine ⟨fun h => (nomatch h), fun ⟨choices, hc, _⟩ => ?_⟩
    obtain ⟨a, ha, b, -, hab, hb⟩ := Closes.onCycle hc
    exact absurd ⟨b, hab, hb⟩ (hnone.1 rfl a ha)
  -- At most one cycle is closed first.
  | error c' =>
    rw [hfold] at hspec
    constructor
    · intro h
      cases h
      exact hspec
    · intro h
      rw [ClosesFirst.unique h hspec]

/-- Some cycle is closed first exactly if a start node leads to a cycle. -/
theorem exists_closesFirst_iff {g : Digraph α κ} (hkey : g.KeyDetermined) {starts : List α}
    (hcov : g.Covers starts) :
    (∃ c, g.ClosesFirst starts c) ↔ ∃ a ∈ starts, g.ReachesCycle a := by
  constructor
  · intro ⟨c, hc⟩
    obtain ⟨choices, hcloses, -⟩ := hc
    obtain ⟨a, ha, b, -, hab, hb⟩ := Closes.onCycle hcloses
    exact ⟨a, ha, b, hab, hb⟩
  · -- The search would report none if no cycle were closed first.
    intro ⟨a, ha, hcycle⟩
    cases hfind : g.findCycle starts with
    | none => exact absurd hcycle ((findCycle_eq_none_iff hkey hcov).1 hfind a ha)
    | some c => exact ⟨c, (findCycle_eq_some_iff hkey hcov c).1 hfind⟩

end ModuleGraph.Digraph
