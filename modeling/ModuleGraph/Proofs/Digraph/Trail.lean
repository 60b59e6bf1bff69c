import ModuleGraph.Digraph.Cycle
import Mathlib.Data.List.Chain

/-!
# Trails and the first cycle that they close

A depth-first walk makes choices: a position among the start nodes, then a position among the
successors of the node chosen, and so on.  `trail?` lists the nodes that choices lead to.  Choices
*close* a cycle (`Closes`) if they lead through distinct nodes and then back to one of these.  The
cycle that is closed *first* (`ClosesFirst`) belongs to the choices that come before all other
closing choices in lexicographic order, which is the order of declaration.

## Key results

- `ClosesFirst.unique`: at most one cycle is closed first
- `Closes.isChain`: a closed cycle is a walk of the graph from a start node
- `closesFrom_zero` and the `firstFrom` lemmas: how closing choices split at the first candidate,
  which is what a step of a walk follows
-/

namespace ModuleGraph.Digraph

variable {α κ : Type}

/-- The nodes that choices lead to: each choice is a position among the nodes, then among the
successors of the node before. -/
def trail? (g : Digraph α κ) : List α → List Nat → Option (List α)
  | _, [] => some []
  | nodes, i :: choices =>
    match nodes[i]? with
    | none => none
    | some a => (g.trail? (g.successors a) choices).map (a :: ·)

/-- Choices among `nodes`, behind a path that is given, that lead through distinct nodes and last
to a node whose key the first node of the cycle has. -/
def ClosesFrom (g : Digraph α κ) (path nodes : List α) (choices : List Nat) (c : Cycle α) : Prop :=
  ∃ w b, g.trail? nodes choices = some (w ++ [b]) ∧ c.path ++ c.cycle = path ++ w ∧
    c.cycle.head?.map g.key = some (g.key b) ∧ ((path ++ w).map g.key).Nodup

/-- Choices that lead from a start node through the path and the cycle, and back to the first node
of the cycle. -/
def Closes (g : Digraph α κ) (starts : List α) (choices : List Nat) (c : Cycle α) : Prop :=
  g.ClosesFrom [] starts choices c

/-- No choices behind the path close a cycle. -/
def NoneFrom (g : Digraph α κ) (path nodes : List α) : Prop :=
  ∀ choices c, ¬ g.ClosesFrom path nodes choices c

/-- The cycle that is closed behind the path by the first of all choices that close one. -/
def FirstFrom (g : Digraph α κ) (path nodes : List α) (c : Cycle α) : Prop :=
  ∃ choices, g.ClosesFrom path nodes choices c ∧
    ∀ others c', g.ClosesFrom path nodes others c' → ¬ others < choices

/-- The cycle that is closed by the first of all choices that close one. -/
def ClosesFirst (g : Digraph α κ) (starts : List α) (c : Cycle α) : Prop :=
  ∃ choices, g.Closes starts choices c ∧
    ∀ others c', g.Closes starts others c' → ¬ others < choices

/-! ### Trails -/

@[simp] theorem trail?_nil (g : Digraph α κ) (nodes : List α) : g.trail? nodes [] = some [] := by
  rw [trail?]

/-- The first choice takes the first candidate. -/
@[simp] theorem trail?_zero (g : Digraph α κ) (a : α) (nodes : List α) (choices : List Nat) :
    g.trail? (a :: nodes) (0 :: choices) = (g.trail? (g.successors a) choices).map (a :: ·) := by
  simp [trail?]

/-- Another first choice passes the first candidate over. -/
@[simp] theorem trail?_succ (g : Digraph α κ) (a : α) (nodes : List α) (i : Nat)
    (choices : List Nat) :
    g.trail? (a :: nodes) ((i + 1) :: choices) = g.trail? nodes (i :: choices) := by
  simp [trail?]

/-- A trail is a walk of the graph that begins among the nodes. -/
theorem trail?_isChain (g : Digraph α κ) (nodes : List α) (choices : List Nat) (w : List α)
    (h : g.trail? nodes choices = some w) :
    (∀ a ∈ w.head?, a ∈ nodes) ∧ w.IsChain (fun a b => b ∈ g.successors a) := by
  induction choices generalizing nodes w with
  | nil =>
    rw [trail?_nil] at h
    cases h
    simp
  -- The trail goes on among the successors of the node that is chosen.
  | cons i choices ih =>
    rw [trail?] at h
    cases hi : nodes[i]? with
    | none => simp [hi] at h
    | some a =>
      rw [hi] at h
      obtain ⟨w', hw', rfl⟩ := Option.map_eq_some_iff.1 h
      obtain ⟨hhead, hchain⟩ := ih _ _ hw'
      refine ⟨by simpa using List.mem_of_getElem? hi, ?_⟩
      cases w' with
      | nil => simp
      | cons b w'' => exact List.isChain_cons_cons.2 ⟨hhead b (by simp), hchain⟩

/-- Everything on a walk can be reached from its first node. -/
theorem reaches_of_isChain (g : Digraph α κ) (a : α) (w : List α)
    (h : (a :: w).IsChain (fun a b => b ∈ g.successors a)) (b : α) (hb : b ∈ a :: w) :
    g.Reaches a b := by
  induction w generalizing a with
  | nil =>
    rw [List.mem_singleton] at hb
    subst hb
    exact .refl b
  | cons c w ih =>
    obtain ⟨hc, hw⟩ := List.isChain_cons_cons.1 h
    rcases List.mem_cons.1 hb with rfl | hb
    · exact .refl b
    · exact .step hc (ih c hw hb)

/-! ### Closing choices are walks -/

/-- Without choices nothing is closed. -/
theorem ClosesFrom.ne_nil {g : Digraph α κ} {path nodes : List α} {choices : List Nat}
    {c : Cycle α} (h : g.ClosesFrom path nodes choices c) : choices ≠ [] := by
  intro heq
  subst heq
  obtain ⟨w, b, hw, -⟩ := h
  simp at hw

/-- The nodes of a closed cycle differ, and it has at least one. -/
theorem Closes.nodup {g : Digraph α κ} {starts : List α} {choices : List Nat} {c : Cycle α}
    (h : g.Closes starts choices c) : ((c.path ++ c.cycle).map g.key).Nodup ∧ c.cycle ≠ [] := by
  obtain ⟨w, b, -, hc, hhead, hnd⟩ := h
  refine ⟨by rw [hc]; exact hnd, ?_⟩
  intro hnil
  simp [hnil] at hhead

/-- A closed cycle is a walk of the graph, and so is the way to it, up to the node that is met
again; the walk begins at a start node. -/
theorem Closes.isChain {g : Digraph α κ} {starts : List α} {choices : List Nat} {c : Cycle α}
    (h : g.Closes starts choices c) :
    ∃ b, c.cycle.head?.map g.key = some (g.key b) ∧
      (c.path ++ c.cycle ++ [b]).IsChain (fun a b => b ∈ g.successors a) ∧
      ∀ a ∈ (c.path ++ c.cycle).head?, a ∈ starts := by
  obtain ⟨w, b, hw, hc, hhead, -⟩ := h
  obtain ⟨hstart, hchain⟩ := g.trail?_isChain _ _ _ hw
  rw [List.nil_append] at hc
  refine ⟨b, hhead, by rw [hc]; exact hchain, fun a ha => hstart a ?_⟩
  rw [hc] at ha
  cases w with
  | nil => simp at ha
  | cons a' w' => simpa using ha

/-- A walk that comes back to the key of its first node goes round a cycle. -/
theorem onCycle_of_isChain (g : Digraph α κ) (a b : α) (w : List α)
    (h : (a :: (w ++ [b])).IsChain (fun a b => b ∈ g.successors a)) (hb : g.key b = g.key a) :
    g.OnCycle a := by
  obtain ⟨next, tail, htail⟩ := List.exists_cons_of_ne_nil (l := w ++ [b]) (by simp)
  rw [htail] at h
  obtain ⟨hnext, hrest⟩ := List.isChain_cons_cons.1 h
  refine ⟨next, hnext, b, g.reaches_of_isChain next tail hrest b ?_, hb⟩
  rw [← htail]
  simp

/-- The cycle part of a closed cycle can be reached from a start node and comes back to itself. -/
theorem Closes.onCycle {g : Digraph α κ} {starts : List α} {choices : List Nat} {c : Cycle α}
    (h : g.Closes starts choices c) :
    ∃ a ∈ starts, ∃ b ∈ c.cycle.head?, g.Reaches a b ∧ g.OnCycle b := by
  obtain ⟨-, hne⟩ := h.nodup
  obtain ⟨b, hhead, hchain, hstart⟩ := h.isChain
  obtain ⟨first, rest, hcycle⟩ := List.exists_cons_of_ne_nil hne
  rw [hcycle] at hchain hstart hhead
  -- The walk from the first node of the cycle comes back to its key.
  have hon : g.OnCycle first := by
    rw [List.append_assoc] at hchain
    exact g.onCycle_of_isChain first b rest hchain.right_of_append (by simpa using hhead.symm)
  rw [hcycle]
  cases hpath : c.path with
  -- Without a path the cycle begins at a start node.
  | nil =>
    rw [hpath] at hstart
    exact ⟨first, hstart first (by simp), first, by simp, .refl first, hon⟩
  -- Otherwise the path leads from a start node into the cycle.
  | cons a path =>
    rw [hpath] at hstart hchain
    refine ⟨a, hstart a (by simp), first, by simp, ?_, hon⟩
    exact g.reaches_of_isChain a _ hchain first (by simp)

/-- A candidate with which closing choices begin leads back to the path or to a cycle. -/
theorem ClosesFrom.reaches {g : Digraph α κ} {path nodes : List α} {a : α} {choices : List Nat}
    {c : Cycle α} (h : g.ClosesFrom path (a :: nodes) (0 :: choices) c) :
    (∃ b, g.Reaches a b ∧ g.key b ∈ path.map g.key) ∨ ∃ b, g.Reaches a b ∧ g.OnCycle b := by
  obtain ⟨w, b, hw, hc, hhead, -⟩ := h
  have hchain := (g.trail?_isChain _ _ _ hw).2
  rw [trail?_zero] at hw
  obtain ⟨w', -, hcons⟩ := Option.map_eq_some_iff.1 hw
  obtain ⟨e, he, hkey⟩ := Option.map_eq_some_iff.1 hhead
  have hmem : e ∈ path ++ w := hc ▸ List.mem_append_right _ (List.mem_of_mem_head? he)
  -- The node that is met again is on the path, or behind the candidate.
  rcases List.mem_append.1 hmem with hpath | hloop
  · refine .inl ⟨b, g.reaches_of_isChain a w' (hcons ▸ hchain) b ?_, ?_⟩
    · simp [hcons]
    · exact List.mem_map.2 ⟨e, hpath, hkey⟩
  · refine .inr ⟨e, g.reaches_of_isChain a w' (hcons ▸ hchain) e ?_, ?_⟩
    · simp [hcons, hloop]
    · obtain ⟨before, after, rfl⟩ := List.append_of_mem hloop
      rw [List.append_assoc] at hchain
      exact g.onCycle_of_isChain e b after hchain.right_of_append hkey.symm

/-! ### At most one cycle is closed first -/

/-- Where the nodes of a list differ, the key of the node behind it decides where a list is cut. -/
private theorem append_inj_of_head (g : Digraph α κ) (p q p' q' : List α) (k : κ)
    (h : p ++ q = p' ++ q') (hq : q.head?.map g.key = some k) (hq' : q'.head?.map g.key = some k)
    (hnd : ((p ++ q).map g.key).Nodup) : p = p' ∧ q = q' := by
  induction p generalizing p' with
  | nil =>
    cases p' with
    | nil => exact ⟨rfl, h⟩
    | cons a p' =>
      -- The key would stand at the front and again further on.
      rw [List.nil_append] at h hnd
      rw [h] at hq hnd
      obtain ⟨b, hb, hkey⟩ := Option.map_eq_some_iff.1 hq'
      have hbq : b ∈ q' := List.mem_of_mem_head? hb
      have ha : g.key a = k := by simpa using hq
      simp only [List.cons_append, List.map_cons, List.nodup_cons] at hnd
      exact absurd (List.mem_map.2 ⟨b, by simp [hbq], by rw [hkey, ha]⟩) hnd.1
  | cons a p ih =>
    cases p' with
    | nil =>
      rw [List.nil_append] at h
      rw [← h] at hq'
      obtain ⟨b, hb, hkey⟩ := Option.map_eq_some_iff.1 hq
      have hbq : b ∈ q := List.mem_of_mem_head? hb
      have ha : g.key a = k := by simpa using hq'
      simp only [List.cons_append, List.map_cons, List.nodup_cons] at hnd
      exact absurd (List.mem_map.2 ⟨b, by simp [hbq], by rw [hkey, ha]⟩) hnd.1
    | cons a' p' =>
      simp only [List.cons_append, List.cons.injEq] at h
      obtain ⟨rfl, h⟩ := h
      simp only [List.cons_append, List.map_cons, List.nodup_cons] at hnd
      obtain ⟨rfl, rfl⟩ := ih p' h hnd.2
      exact ⟨rfl, rfl⟩

/-- Choices close at most one cycle. -/
theorem ClosesFrom.unique {g : Digraph α κ} {path nodes : List α} {choices : List Nat}
    {c c' : Cycle α} (h : g.ClosesFrom path nodes choices c)
    (h' : g.ClosesFrom path nodes choices c') : c = c' := by
  obtain ⟨w, b, hw, hc, hhead, hnd⟩ := h
  obtain ⟨w', b', hw', hc', hhead', -⟩ := h'
  -- Both cycles are cut from one trail, so they can only be cut at different places.
  rw [hw] at hw'
  obtain ⟨rfl, hb⟩ := List.append_inj' (Option.some.inj hw') rfl
  have hb : b = b' := by simpa using hb
  subst hb
  obtain ⟨hpath, hcycle⟩ := append_inj_of_head g _ _ _ _ (g.key b) (hc.trans hc'.symm)
    hhead hhead' (by rw [hc]; exact hnd)
  cases c
  cases c'
  simp_all

/-- At most one cycle is closed first. -/
theorem ClosesFirst.unique {g : Digraph α κ} {starts : List α} {c c' : Cycle α}
    (h : g.ClosesFirst starts c) (h' : g.ClosesFirst starts c') : c = c' := by
  obtain ⟨choices, hc, hfirst⟩ := h
  obtain ⟨choices', hc', hfirst'⟩ := h'
  -- Neither choices come before the others.
  have heq : choices = choices' :=
    List.le_antisymm (List.not_lt.1 (hfirst _ _ hc')) (List.not_lt.1 (hfirst' _ _ hc))
  subst heq
  exact hc.unique hc'

/-! ### Splitting at the first candidate -/

/-- There are no closing choices among no nodes. -/
theorem noneFrom_nil (g : Digraph α κ) (path : List α) : g.NoneFrom path [] := by
  intro choices c h
  cases choices with
  | nil => exact h.ne_nil rfl
  | cons i choices =>
    obtain ⟨w, b, hw, -⟩ := h
    simp [trail?] at hw

/-- Choices that pass the first candidate over close what they close among the others. -/
theorem closesFrom_succ (g : Digraph α κ) (path : List α) (a : α) (nodes : List α) (i : Nat)
    (choices : List Nat) (c : Cycle α) :
    g.ClosesFrom path (a :: nodes) ((i + 1) :: choices) c ↔
      g.ClosesFrom path nodes (i :: choices) c := by
  simp only [ClosesFrom, trail?_succ]

/-- Choices that take a candidate which is not on the path go on behind it. -/
theorem closesFrom_zero (g : Digraph α κ) (path : List α) (a : α) (nodes : List α)
    (choices : List Nat) (c : Cycle α) (ha : g.key a ∉ path.map g.key) :
    g.ClosesFrom path (a :: nodes) (0 :: choices) c ↔
      g.ClosesFrom (path ++ [a]) (g.successors a) choices c := by
  simp only [ClosesFrom, trail?_zero]
  constructor
  · intro ⟨w, b, hw, hc, hhead, hnd⟩
    obtain ⟨w', hw', hcons⟩ := Option.map_eq_some_iff.1 hw
    cases w with
    | nil =>
      -- The candidate itself would have to be on the path.
      simp only [List.nil_append, List.cons.injEq] at hcons
      obtain ⟨rfl, -⟩ := hcons
      obtain ⟨d, hd, hkey⟩ := Option.map_eq_some_iff.1 hhead
      have hmem : d ∈ path := by
        rw [List.append_nil] at hc
        rw [← hc]
        exact List.mem_append_right _ (List.mem_of_mem_head? hd)
      exact absurd (List.mem_map.2 ⟨d, hmem, hkey⟩) ha
    | cons a' w'' =>
      simp only [List.cons_append, List.cons.injEq] at hcons
      obtain ⟨rfl, rfl⟩ := hcons
      exact ⟨w'', b, hw', by simpa using hc, hhead, by simpa using hnd⟩
  · intro ⟨w, b, hw, hc, hhead, hnd⟩
    exact ⟨a :: w, b, by simp [hw], by simpa using hc, hhead, by simpa using hnd⟩

/-- Nothing is closed if nothing is closed behind the first candidate or among the others. -/
theorem noneFrom_cons (g : Digraph α κ) (path : List α) (a : α) (nodes : List α)
    (hbelow : ∀ choices c, ¬ g.ClosesFrom path (a :: nodes) (0 :: choices) c)
    (hrest : g.NoneFrom path nodes) : g.NoneFrom path (a :: nodes) := by
  intro choices c h
  match choices with
  | [] => exact h.ne_nil rfl
  | 0 :: choices => exact hbelow choices c h
  | (i + 1) :: choices => exact hrest _ _ ((g.closesFrom_succ ..).1 h)

/-- What is closed first behind the first candidate is closed first of all. -/
theorem firstFrom_below (g : Digraph α κ) (path : List α) (a : α) (nodes : List α) (c : Cycle α)
    (ha : g.key a ∉ path.map g.key) (h : g.FirstFrom (path ++ [a]) (g.successors a) c) :
    g.FirstFrom path (a :: nodes) c := by
  obtain ⟨choices, hc, hfirst⟩ := h
  refine ⟨0 :: choices, (g.closesFrom_zero _ _ _ _ _ ha).2 hc, fun others c' h' => ?_⟩
  -- Other choices take the first candidate too, or come later.
  match others with
  | [] => exact absurd rfl h'.ne_nil
  | 0 :: others =>
    have := hfirst others c' ((g.closesFrom_zero _ _ _ _ _ ha).1 h')
    simpa [List.cons_lt_cons_iff] using this
  | (i + 1) :: others => simp [List.cons_lt_cons_iff]

/-- If choices that take the first candidate close nothing, the others decide. -/
theorem firstFrom_rest (g : Digraph α κ) (path : List α) (a : α) (nodes : List α) (c : Cycle α)
    (hbelow : ∀ choices c, ¬ g.ClosesFrom path (a :: nodes) (0 :: choices) c)
    (h : g.FirstFrom path nodes c) : g.FirstFrom path (a :: nodes) c := by
  obtain ⟨choices, hc, hfirst⟩ := h
  obtain ⟨i, choices, rfl⟩ := List.exists_cons_of_ne_nil hc.ne_nil
  refine ⟨(i + 1) :: choices, (g.closesFrom_succ ..).2 hc, fun others c' h' => ?_⟩
  -- Other choices that close something do not take the first candidate either.
  match others with
  | [] => exact absurd rfl h'.ne_nil
  | 0 :: others => exact absurd h' (hbelow others c')
  | (j + 1) :: others =>
    have := hfirst _ _ ((g.closesFrom_succ ..).1 h')
    simpa [List.cons_lt_cons_iff] using this

/-- A first candidate that is on the path closes the first cycle. -/
theorem firstFrom_of_mem (g : Digraph α κ) (path : List α) (a : α) (nodes : List α) (c : Cycle α)
    (hnd : (path.map g.key).Nodup) (hc : c.path ++ c.cycle = path)
    (hhead : c.cycle.head?.map g.key = some (g.key a)) : g.FirstFrom path (a :: nodes) c := by
  refine ⟨[0], ⟨[], a, by simp, by simpa using hc, hhead, by simpa using hnd⟩, ?_⟩
  intro others c' h'
  match others with
  | [] => exact absurd rfl h'.ne_nil
  | i :: others => simp [List.cons_lt_cons_iff]

end ModuleGraph.Digraph
