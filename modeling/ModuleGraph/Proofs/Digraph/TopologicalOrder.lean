import ModuleGraph.Proofs.Digraph.DistinctKeys
import ModuleGraph.Proofs.List

/-!
# Topological orders of a relation

An order of some nodes is topological if it has every node once and every step leads forward in it.
Where nodes are told apart by all that they are and no step leads out of the start nodes, the sort
lists them in such an order, unless steps lead back to where they began.

## Key results

- `TopologicalOrder.reverse`: read backwards, an order is one of the steps the other way
- `listsInOrder_iff`: the lists that the sort may give are the topological orders of its steps
- `exists_sort_iff`: the sort succeeds exactly if no steps lead back
-/

namespace ModuleGraph

open Relation (ReflTransGen TransGen)

variable {α κ : Type}

/-- All nodes, once each, and every step leads forward. -/
structure TopologicalOrder (nodes : List α) (r : α → α → Prop) (order : List α) : Prop where
  once : order.Nodup
  all : ∀ a, a ∈ order ↔ a ∈ nodes
  forward : ∀ a b, r a b → [a, b].Sublist order

/-- Read backwards, the order is one of the steps the other way. -/
theorem TopologicalOrder.reverse {nodes order : List α} {r : α → α → Prop}
    (h : TopologicalOrder nodes r order) :
    TopologicalOrder nodes (fun a b => r b a) order.reverse where
  once := List.nodup_reverse.2 h.once
  all := fun a => by rw [List.mem_reverse, h.all]
  forward := fun a b hba => (h.forward b a hba).reverse

namespace Digraph

section
variable {g : Digraph α κ} {r : α → α → Prop} {starts order : List α}
  (hkey : Function.Injective g.key) (hr : ∀ {a b}, b ∈ g.successors a ↔ r a b)
  (hclosed : ∀ a b, r a b → a ∈ starts ∧ b ∈ starts)

include hr hclosed in
/-- Where no step leads out of the start nodes, nothing else can be reached from them. -/
theorem mem_reachedFrom_iff {a : α} : a ∈ g.reachedFrom starts ↔ a ∈ starts := by
  refine ⟨fun ⟨b, hb, hwalk⟩ => ?_, mem_reachedFrom⟩
  rcases ReflTransGen.cases_tail ((reaches_iff hr).1 hwalk) with rfl | ⟨c, -, hstep⟩
  · exact hb
  · exact (hclosed c a hstep).2

include hkey hr hclosed in
/-- The lists that the sort may give are the topological orders of its steps. -/
theorem listsInOrder_iff :
    g.ListsInOrder starts order ↔ TopologicalOrder starts r order := by
  have hmem (a : α) : a ∈ g.reachedFrom starts ↔ a ∈ starts := mem_reachedFrom_iff hr hclosed
  have hmap {a : α} {l : List α} : g.key a ∈ l.map g.key ↔ a ∈ l :=
    List.mem_map_of_injective hkey
  constructor
  · rintro ⟨hreached, hall, honce, hordered⟩
    have hnodup : order.Nodup := honce.of_map g.key
    have hin (a : α) : a ∈ order ↔ a ∈ starts :=
      ⟨fun ha => (hmem a).1 (hreached a ha), fun ha => hmap.1 (hall a ((hmem a).2 ha))⟩
    refine ⟨hnodup, hin, fun a b hab => ?_⟩
    -- Where the list is cut at `a`, its successor is in what follows.
    obtain ⟨above, below, rfl⟩ := List.append_of_mem ((hin a).2 (hclosed a b hab).1)
    rw [List.pair_sublist_iff hnodup]
    exact hmap.1 (hordered a below (List.suffix_append above _) b (hr.2 hab))
  · rintro ⟨hnodup, hin, hforward⟩
    refine ⟨fun a ha => (hmem a).2 ((hin a).1 ha), fun a ha => hmap.2 ((hin a).2 ((hmem a).1 ha)),
      hnodup.map hkey, fun a below hsuffix b hb => hmap.2 ?_⟩
    -- And in a list without repeats, what comes after `a` is behind it.
    obtain ⟨above, rfl⟩ := hsuffix
    exact (List.pair_sublist_iff hnodup).1 (hforward a b (hr.1 hb))

variable [DecidableEq κ]

include hkey hr hclosed in
/-- The sort succeeds exactly if no steps lead back to where they began. -/
theorem exists_sort_iff (hcov : g.Covers starts) :
    (∃ sorted, g.sort starts = .ok sorted) ↔ ¬ ∃ a, TransGen r a a := by
  have herror := sort_error_iff (keyDetermined_of_injective hkey) hcov
  -- Steps that lead back are a cycle, and it begins at a start node since these have all steps.
  have hcycle : (∃ a ∈ starts, g.ReachesCycle a) ↔ ∃ a, TransGen r a a := by
    constructor
    · rintro ⟨-, -, b, -, c, hbc, d, hcd, hdb⟩
      exact ⟨b, .head' (hr.1 hbc) (hkey hdb ▸ (reaches_iff hr).1 hcd)⟩
    · rintro ⟨a, hback⟩
      obtain ⟨b, hab, hba⟩ := TransGen.head'_iff.1 hback
      exact ⟨a, (hclosed a b hab).1, a, .refl a, b, hr.2 hab, a, (reaches_iff hr).2 hba, rfl⟩
  rw [← hcycle, ← herror]
  cases g.sort starts with
  | ok sorted => exact ⟨fun _ ⟨_, he⟩ => (nomatch he), fun _ => ⟨sorted, rfl⟩⟩
  | error e => exact ⟨fun ⟨_, hok⟩ => (nomatch hok), fun h => (h ⟨e, rfl⟩).elim⟩

include hkey hr hclosed in
/-- What the sort lists is in topological order. -/
theorem topologicalOrder_of_sort (hcov : g.Covers starts) (h : g.sort starts = .ok order) :
    TopologicalOrder starts r order :=
  (listsInOrder_iff hkey hr hclosed).1
    (listsInOrder_of_sort (keyDetermined_of_injective hkey) hcov h)

end

end Digraph

end ModuleGraph
