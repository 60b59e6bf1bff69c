import ModuleGraph.Proofs.Digraph.Unbounded
import ModuleGraph.Proofs.Outcome

/-!
# What the sort lists

A node is listed when it is left, in front of everything that has been left before.  At that moment
all of its successors have been left (`Searching`), so they are in the list already, and the node is
none of them.  The invariant `Sorting` adds this to the invariant of the search for a cycle, which
makes the same steps.

## Key results

- `Sorting.next`: every step of the sort keeps the invariant
- `reachedFrom_of_sort`: whatever the keys are, the sort lists only what can be reached
- `listsInOrder_of_sort`: the sort lists what can be reached, once each and in order
- `sort_correct`: the sort ends on every finite graph, and fails exactly if a cycle can be reached
-/

namespace ModuleGraph.Digraph

variable {α κ : Type}

/-- Every node of a list comes before all nodes that it leads to, which the list has as well. -/
def Ordered (g : Digraph α κ) (sorted : List α) : Prop :=
  ∀ u below, u :: below <:+ sorted → ∀ v ∈ g.successors u, g.key v ∈ below.map g.key

/-- A topological order of what can be reached from the start nodes: nothing else is listed,
everything is, up to the key, no key comes twice, and every edge leads towards the end. -/
structure ListsInOrder (g : Digraph α κ) (starts sorted : List α) : Prop where
  reached : ∀ b ∈ sorted, b ∈ g.reachedFrom starts
  all : ∀ b ∈ g.reachedFrom starts, g.key b ∈ sorted.map g.key
  once : (sorted.map g.key).Nodup
  ordered : g.Ordered sorted

/-! ### Ordered lists -/

/-- The empty list is ordered. -/
theorem ordered_nil (g : Digraph α κ) : g.Ordered [] := by
  intro u below h
  exact absurd (List.suffix_nil.1 h) (List.cons_ne_nil u below)

/-- A node can be placed in front of an ordered list that has all of its successors. -/
theorem Ordered.cons {g : Digraph α κ} {sorted : List α} (h : g.Ordered sorted) {a : α}
    (ha : ∀ v ∈ g.successors a, g.key v ∈ sorted.map g.key) : g.Ordered (a :: sorted) := by
  intro u below hsuffix
  rcases List.suffix_cons_iff.1 hsuffix with heq | hsuffix
  · cases heq
    exact ha
  · exact h u below hsuffix

/-- With a node, an ordered list has everything that can be reached from it. -/
theorem Ordered.mem_of_reaches {g : Digraph α κ} (hkey : g.KeyDetermined) {sorted : List α}
    (h : g.Ordered sorted) {a b : α} (hab : g.Reaches a b)
    (ha : g.key a ∈ sorted.map g.key) : g.key b ∈ sorted.map g.key := by
  -- Induction on the walk: the list has the successors of everything in it.
  induction hab with
  | refl => exact ha
  | step hs _ ih =>
    obtain ⟨u, hu, hkeyu⟩ := List.mem_map.1 ha
    obtain ⟨v, hv, hkeyv⟩ := hkey.successor hkeyu.symm hs
    obtain ⟨above, below, rfl⟩ := List.append_of_mem hu
    have hbelow := h u below (List.suffix_append above _) v hv
    refine ih ?_
    rw [← hkeyv, List.map_append, List.map_cons]
    exact List.mem_append_right _ (List.mem_cons_of_mem _ hbelow)

/-- A list in order does not depend on the nodes that bound a walk. -/
theorem ListsInOrder.of_withNodes {g : Digraph α κ} {nodes starts sorted : List α}
    (h : (g.withNodes nodes).ListsInOrder starts sorted) : g.ListsInOrder starts sorted where
  reached := by simpa using h.reached
  all := by
    have hall := h.all
    rw [reachedFrom_withNodes] at hall
    exact hall
  once := h.once
  ordered := h.ordered

/-! ### The invariant of the sort -/

/-- What holds of a sort before every step. -/
structure Sorting (g : Digraph α κ) (s : SortState α κ) : Prop where
  search : g.SearchInv s.search
  keys : s.sorted.map g.key = s.left
  once : s.left.Nodup
  /-- The nodes of the path have not been left. -/
  entered : ∀ a ∈ pathOf s.stack, g.key a ∉ s.left
  ordered : g.Ordered s.sorted

/-- Nothing has been listed at first. -/
theorem sorting_nil (g : Digraph α κ) : g.Sorting ⟨[], [], []⟩ where
  search := ⟨g.left_nil, trivial, .nil⟩
  keys := rfl
  once := .nil
  entered := fun _ ha => nomatch ha
  ordered := g.ordered_nil

/-- Between two walks, a start node that has not been left can be entered. -/
theorem Sorting.enter {g : Digraph α κ} {s : SortState α κ} (hs : g.Sorting s) {start : α}
    (hleft : g.key start ∉ s.left) : g.Sorting { s with stack := [g.enter start] } where
  search := g.searchInv_enter start hs.search.left
  keys := hs.keys
  once := hs.once
  entered := by
    intro a ha
    have hsame : a = start := by simpa [Digraph.enter] using ha
    exact hsame ▸ hleft
  ordered := hs.ordered

/-- Everything that has been listed, entered or is still to be looked at can be reached. -/
def MetFrom (g : Digraph α κ) (starts : List α) (s : SortState α κ) : Prop :=
  ∀ a, a ∈ s.sorted ∨ (∃ f ∈ s.stack, a = f.node ∨ a ∈ f.rest) → a ∈ g.reachedFrom starts

/-- Entering a node meets the node and its successors. -/
theorem reachedFrom_enter {g : Digraph α κ} {starts : List α} {a b : α}
    (hb : b ∈ g.reachedFrom starts) (ha : a = (g.enter b).node ∨ a ∈ (g.enter b).rest) :
    a ∈ g.reachedFrom starts := by
  rcases ha with rfl | ha
  · exact hb
  · exact reachedFrom_successor hb ha

variable [DecidableEq κ]

/-- What a step of the sort that goes on may do. -/
inductive SortMoves (g : Digraph α κ) : SortState α κ → SortState α κ → Prop
  /-- The innermost node has no more successors and is listed. -/
  | leave (node : α) (stack : List (Frame α)) (left : List κ) (sorted : List α) :
      SortMoves g ⟨⟨node, []⟩ :: stack, left, sorted⟩ ⟨stack, g.key node :: left, node :: sorted⟩
  /-- The next successor has been left and is passed over. -/
  | skip (node b : α) (rest : List α) (stack : List (Frame α)) (left : List κ) (sorted : List α) :
      SortMoves g ⟨⟨node, b :: rest⟩ :: stack, left, sorted⟩ ⟨⟨node, rest⟩ :: stack, left, sorted⟩
  /-- The next successor is new and is entered. -/
  | enter (node b : α) (rest : List α) (stack : List (Frame α)) (left : List κ) (sorted : List α)
      (hleft : g.key b ∉ left) :
      SortMoves g ⟨⟨node, b :: rest⟩ :: stack, left, sorted⟩
        ⟨g.enter b :: ⟨node, rest⟩ :: stack, left, sorted⟩

/-- A step of the sort that goes on is one of these moves. -/
theorem sortStep_next {g : Digraph α κ} {s s' : SortState α κ} (h : g.sortStep s = .next s') :
    g.SortMoves s s' := by
  obtain ⟨stack, left, sorted⟩ := s
  unfold sortStep at h
  match stack with
  | [] => exact nomatch h
  | ⟨node, []⟩ :: stack =>
    cases h
    exact .leave node stack left sorted
  | ⟨node, b :: rest⟩ :: stack =>
    dsimp only at h
    split at h
    · cases h
      exact .skip node b rest stack left sorted
    · next hleft =>
      split at h
      · exact nomatch h
      · cases h
        -- Neither done before nor on the stack.
        exact .enter node b rest stack left sorted (by simpa using hleft)

/-- A step of the sort that goes on is one of the search for a cycle. -/
theorem cycleStep_of_sortStep {g : Digraph α κ} {s s' : SortState α κ}
    (h : g.sortStep s = .next s') : g.cycleStep s.search = .next s'.search := by
  have hagree := g.agrees_step s
  rw [h] at hagree
  cases hcycle : g.cycleStep s.search with
  | next t =>
    rw [hcycle] at hagree
    have hsame : t = s'.search := hagree
    rw [hsame]
  | done q =>
    rw [hcycle] at hagree
    exact hagree.elim

/-- A step that ends the sort without a cycle has nothing on the stack and changes nothing. -/
theorem sortStep_ok {g : Digraph α κ} {s s' : SortState α κ} (h : g.sortStep s = .done (.ok s')) :
    s' = s ∧ s.stack = [] := by
  obtain ⟨stack, left, sorted⟩ := s
  unfold sortStep at h
  match stack with
  | [] => exact ⟨by cases h; rfl, rfl⟩
  | ⟨node, []⟩ :: stack => exact nomatch h
  | ⟨node, b :: rest⟩ :: stack =>
    dsimp only at h
    split at h
    · exact nomatch h
    · split at h <;> exact nomatch h

/-- What every step of the sort keeps is kept by a walk from one start node, if it holds of the
state in which the walk begins. -/
theorem sortFrom_inv {g : Digraph α κ} {inv : SortState α κ → Prop}
    (hnext : ∀ s s', inv s → g.sortStep s = .next s' → inv s') {s s' : SortState α κ} {start : α}
    (hs : inv s) (henter : g.key start ∉ s.left → inv { s with stack := [g.enter start] })
    (h : g.sortFrom s start = .ok s') : inv s' := by
  unfold Digraph.sortFrom at h
  split at h
  · -- The node has been left before, and the walk does nothing.
    cases h
    exact hs
  · next hleft =>
    have hbegin := henter (by simpa using hleft)
    cases hrun : Loop.run g.sortStep g.walkSteps { s with stack := [g.enter start] } with
    | none =>
      rw [hrun] at h
      exact nomatch h
    | some r =>
      rw [hrun, Option.getD_some] at h
      -- The last step empties the stack and leaves the state as it is.
      refine Loop.run_post inv (fun r => ∀ s', r = .ok s' → inv s') hnext
        (fun s r hs hdone s' hr => ?_) hbegin hrun s' h
      rw [hr] at hdone
      exact (sortStep_ok hdone).1 ▸ hs

/-! ### What the sort meets, whatever the keys are -/

/-- A step of the sort meets only what can be reached. -/
theorem MetFrom.next {g : Digraph α κ} {starts : List α} {s s' : SortState α κ}
    (hs : g.MetFrom starts s) (h : g.sortStep s = .next s') : g.MetFrom starts s' := by
  intro a ha
  cases sortStep_next h with
  -- The node moves from the stack to the sorted ones.
  | leave node stack left sorted =>
    apply hs a
    rcases ha with ha | ⟨f, hf, ha⟩
    · rcases List.mem_cons.1 ha with rfl | ha
      · exact .inr ⟨_, List.mem_cons_self, .inl rfl⟩
      · exact .inl ha
    · exact .inr ⟨f, List.mem_cons_of_mem _ hf, ha⟩
  -- The top of the stack has one successor fewer to look at.
  | skip node b rest stack left sorted =>
    apply hs a
    rcases ha with ha | ⟨f, hf, ha⟩
    · exact .inl ha
    · rcases List.mem_cons.1 hf with rfl | hf
      · exact .inr ⟨_, List.mem_cons_self, ha.imp_right (List.mem_cons_of_mem b)⟩
      · exact .inr ⟨f, List.mem_cons_of_mem _ hf, ha⟩
  -- Only here something new is met: the successors of `b`, which has been met itself.
  | enter node b rest stack left sorted hleft =>
    have hb : b ∈ g.reachedFrom starts :=
      hs b (.inr ⟨_, List.mem_cons_self, .inr List.mem_cons_self⟩)
    rcases ha with ha | ⟨f, hf, ha⟩
    · exact hs a (.inl ha)
    · rcases List.mem_cons.1 hf with rfl | hf
      · exact reachedFrom_enter hb ha
      · apply hs a
        rcases List.mem_cons.1 hf with rfl | hf
        · exact .inr ⟨_, List.mem_cons_self, ha.imp_right (List.mem_cons_of_mem b)⟩
        · exact .inr ⟨f, List.mem_cons_of_mem _ hf, ha⟩

/-- A walk from a start node meets only what can be reached. -/
theorem MetFrom.sortFrom {g : Digraph α κ} {starts : List α} {s s' : SortState α κ}
    (hs : g.MetFrom starts s) {start : α} (hstart : start ∈ starts)
    (h : g.sortFrom s start = .ok s') : g.MetFrom starts s' := by
  apply sortFrom_inv (fun _ _ hs hnext => hs.next hnext) hs _ h
  rintro - a (ha | ⟨f, hf, ha⟩)
  · exact hs a (.inl ha)
  · rw [List.mem_singleton.1 hf] at ha
    exact reachedFrom_enter (mem_reachedFrom hstart) ha

/-- The sort lists only what can be reached from the start nodes. -/
theorem reachedFrom_of_sort {g : Digraph α κ} {starts sorted : List α}
    (h : g.sort starts = .ok sorted) {a : α} (ha : a ∈ sorted) : a ∈ g.reachedFrom starts := by
  obtain ⟨s, hfold, rfl⟩ := Except.map_eq_ok.1 h
  have hempty : g.MetFrom starts ⟨[], [], []⟩ := by
    rintro a (ha | ⟨f, hf, -⟩)
    · exact nomatch ha
    · exact nomatch hf
  have hs : g.MetFrom starts s :=
    Except.foldlM_inv (g.MetFrom starts) (fun _ hstart _ _ hs h => hs.sortFrom hstart h) hempty
      hfold
  exact hs a (.inl ha)

/-! ### The order of what the sort lists -/

/-- A step of the sort keeps its invariant. -/
theorem Sorting.next {g : Digraph α κ} (hkey : g.KeyDetermined) {s s' : SortState α κ}
    (hs : g.Sorting s) (h : g.sortStep s = .next s') : g.Sorting s' := by
  have hsearch' := hs.search.next hkey (cycleStep_of_sortStep h)
  obtain ⟨⟨-, hsearching, hnd⟩, hkeys, honce, hentered, hordered⟩ := hs
  cases sortStep_next h with
  | leave node stack left sorted =>
    obtain ⟨-, hsucc, -⟩ := hsearching
    have hnode : node ∈ pathOf (⟨node, []⟩ :: stack) := by simp
    have hdisjoint : g.key node ∉ (pathOf stack).map g.key := by
      intro hmem
      simp only [SortState.search, pathOf_cons, List.map_append, List.map_singleton] at hnd
      exact (List.nodup_append.1 hnd).2.2 _ hmem _ (List.mem_singleton_self _) rfl
    refine ⟨hsearch', ?_, List.nodup_cons.2 ⟨hentered node hnode, honce⟩, ?_, hordered.cons ?_⟩
    · rw [List.map_cons, hkeys]
    · intro a ha hmem
      rcases List.mem_cons.1 hmem with heq | hmem
      · exact hdisjoint (heq ▸ List.mem_map_of_mem ha)
      · exact hentered a (by simp [ha]) hmem
    · -- No successor is still to be looked at, so all of them have been left.
      intro v hv
      rw [hkeys]
      rcases hsucc v hv with hv | hv | hv
      · exact nomatch hv
      · exact hv
      · exact nomatch hv
  | skip node b rest stack left sorted =>
    rw [pathOf_cons] at hentered
    exact ⟨hsearch', hkeys, honce, by rwa [pathOf_cons], hordered⟩
  | enter node b rest stack left sorted hleft =>
    -- The path of the new state is the old one with `b` at its end.
    have hpath (a : α) (ha : a ∈ pathOf (g.enter b :: ⟨node, rest⟩ :: stack)) :
        a ∈ pathOf (⟨node, b :: rest⟩ :: stack) ∨ a = b := by
      simpa [Digraph.enter, or_assoc] using ha
    refine ⟨hsearch', hkeys, honce, fun a ha => ?_, hordered⟩
    rcases hpath a ha with ha | rfl
    · exact hentered a ha
    · exact hleft

/-! ### The sort from the start nodes -/

/-- A walk from one start node keeps the invariant. -/
theorem Sorting.sortFrom {g : Digraph α κ} (hkey : g.KeyDetermined) {s s' : SortState α κ}
    (hs : g.Sorting s) {start : α} (h : g.sortFrom s start = .ok s') : g.Sorting s' :=
  sortFrom_inv (fun _ _ hs hnext => hs.next hkey hnext) hs (fun hleft => hs.enter hleft) h

/-- Walks from some start nodes keep the invariant and leave these nodes. -/
theorem Sorting.foldlM {g : Digraph α κ} (hkey : g.KeyDetermined) {starts : List α}
    (hcov : g.Covers starts) {nodes : List α} (hnodes : ∀ a ∈ nodes, a ∈ starts)
    {s s' : SortState α κ} (hs : g.Sorting s) (h : nodes.foldlM g.sortFrom s = .ok s') :
    g.Sorting s' ∧ (∀ k ∈ s.left, k ∈ s'.left) ∧ ∀ a ∈ nodes, g.key a ∈ s'.left := by
  induction nodes generalizing s with
  | nil =>
    cases h
    exact ⟨hs, fun _ hk => hk, by simp⟩
  | cons start nodes ih =>
    obtain ⟨s₁, hfirst, hrest⟩ := Except.foldlM_cons_eq_ok.1 h
    have hstart := hcov.starts start (hnodes start (by simp))
    obtain ⟨-, hgrows, hmem⟩ := sortFrom_leaves hkey hcov hstart hs.search.left hfirst
    obtain ⟨hs', hgrows', hall⟩ := ih (fun a ha => hnodes a (by simp [ha]))
      (hs.sortFrom hkey hfirst) hrest
    refine ⟨hs', fun k hk => hgrows' k (hgrows k hk), fun a ha => ?_⟩
    -- The first node has been left by its own walk, the others by theirs.
    rcases List.mem_cons.1 ha with rfl | ha
    · exact hgrows' _ hmem
    · exact hall a ha

/-- The sort lists what can be reached from the start nodes, once each and in order. -/
theorem listsInOrder_of_sort {g : Digraph α κ} (hkey : g.KeyDetermined) {starts : List α}
    (hcov : g.Covers starts) {sorted : List α} (h : g.sort starts = .ok sorted) :
    g.ListsInOrder starts sorted := by
  have hreached {b : α} (hb : b ∈ sorted) : b ∈ g.reachedFrom starts := reachedFrom_of_sort h hb
  obtain ⟨s, hfold, rfl⟩ := Except.map_eq_ok.1 h
  obtain ⟨hs, -, hstarts⟩ :=
    g.sorting_nil.foldlM hkey hcov (fun _ ha => ha) hfold
  rw [← hs.keys] at hstarts
  refine ⟨fun _ => hreached, ?_, by rw [hs.keys]; exact hs.once, hs.ordered⟩
  rintro b ⟨a, ha, hab⟩
  exact hs.ordered.mem_of_reaches hkey hab (hstarts a ha)

/-- The sort fails exactly if a start node leads to a cycle. -/
theorem sort_error_iff {g : Digraph α κ} (hkey : g.KeyDetermined) {starts : List α}
    (hcov : g.Covers starts) :
    (∃ e, g.sort starts = .error e) ↔ ∃ a ∈ starts, g.ReachesCycle a := by
  have hok := sort_isOk_iff hkey hcov
  rw [findCycle_eq_none_iff hkey hcov] at hok
  cases hsort : g.sort starts with
  | error e =>
    have hcycle : ¬ ∀ a ∈ starts, ¬ g.ReachesCycle a := by simpa [hsort] using hok
    push Not at hcycle
    exact ⟨fun _ => hcycle, fun _ => ⟨e, rfl⟩⟩
  | ok sorted =>
    have hnone : ∀ a ∈ starts, ¬ g.ReachesCycle a := hok.1 ⟨sorted, hsort⟩
    exact ⟨fun ⟨_, he⟩ => (nomatch he), fun ⟨a, ha, hcycle⟩ => absurd hcycle (hnone a ha)⟩

/-- Wherever finitely many nodes can be reached, the sort ends, with one outcome.  It is an error
exactly if a start node leads to a cycle, and else what can be reached, once each and in order.  The
bounded sort has this outcome whenever its nodes cover everything. -/
theorem sort_correct {g : Digraph α κ} (hkey : g.KeyDetermined) {starts : List α}
    (hfinite : (g.reachedFrom starts).Finite) :
    ∃ outcome, g.SortEnds starts outcome ∧
      (g.Covers starts → g.sort starts = outcome) ∧
      ((∃ e, outcome = .error e) ↔ ∃ a ∈ starts, g.ReachesCycle a) ∧
      ∀ sorted, outcome = .ok sorted → g.ListsInOrder starts sorted := by
  obtain ⟨nodes, hcov⟩ := exists_covers hfinite
  have hkey' : (g.withNodes nodes).KeyDetermined := hkey
  have hends : g.SortEnds starts ((g.withNodes nodes).sort starts) := sortEnds_sort hkey' hcov
  refine ⟨(g.withNodes nodes).sort starts, hends, fun hcov' => ?_, ?_, fun sorted hok => ?_⟩
  · exact (sortEnds_sort hkey hcov').unique hends
  · simpa using sort_error_iff hkey' hcov
  · exact (listsInOrder_of_sort hkey' hcov hok).of_withNodes

/-- A node that leads to another one on two ways. -/
def diamond : Digraph Nat Nat where
  key := id
  successors
    | 0 => [1, 2]
    | 1 => [3]
    | 2 => [3]
    | _ => []
  nodes := [0, 1, 2, 3]

/-- Start nodes that lead to each other, one of them twice. -/
theorem sort_correct_diamond :
    diamond.KeyDetermined ∧ (diamond.reachedFrom [3, 1, 0, 0]).Finite ∧
      diamond.SortEnds [3, 1, 0, 0] (.ok [0, 2, 1, 3]) ∧
      diamond.ListsInOrder [3, 1, 0, 0] [0, 2, 1, 3] := by
  have hkey : diamond.KeyDetermined := keyDetermined_of_injective fun _ _ h => h
  have hcov : diamond.Covers [3, 1, 0, 0] := ⟨by decide, by decide⟩
  have hsort : diamond.sort [3, 1, 0, 0] = .ok [0, 2, 1, 3] := by rfl
  obtain ⟨outcome, hends, hbounded, -, hlists⟩ := sort_correct hkey hcov.finite
  have houtcome : outcome = .ok [0, 2, 1, 3] := by rw [← hbounded hcov, hsort]
  rw [houtcome] at hends hlists
  exact ⟨hkey, hcov.finite, hends, hlists _ rfl⟩

end ModuleGraph.Digraph
