import ModuleGraph.Proofs.Digraph.TopologicalOrder
import ModuleGraph.Proofs.PackageView

/-!
# Two orders of packages

A view of packages is put in order by a sort of its numbered nodes, read backwards, and a sorter
that walks along dependencies puts packages in order by themselves.  Of the first sort nothing is
assumed but that it gives a topological order of the nodes where no edges lead back, and fails where
they do. Edges between nodes lead back exactly where dependencies between packages do, so both sorts
succeed on the same views, and their orders are topological in opposite directions.

## Key results

- `WellFormed.cyclic_iff`: cycles of nodes are cycles of packages
- `WellFormed.packagesAt_sorted`: an order of nodes is one of packages
- `sortsNodes_sortDepthFirst`: the sort depth first does what is assumed of a sort
- `orderBy_agrees`: both orders of a view that calls have made
-/

namespace ModuleGraph.PackageView

open Relation (TransGen)

/-- The edges between numbered nodes as a relation. -/
def Leads (edges : List (Nat × Nat)) (i j : Nat) : Prop := (i, j) ∈ edges

/-- What is assumed of a sort of numbered nodes: where no edges lead back to where they began, it
gives a topological order of all nodes, and else it fails. -/
structure SortsNodes {ε : Type} (sort : Nat → List (Nat × Nat) → Except ε (List Nat)) : Prop where
  acyclic : ∀ size edges, Inside size edges → (¬ ∃ i, TransGen (Leads edges) i i) →
    ∃ sorted, sort size edges = .ok sorted ∧
      TopologicalOrder (List.range size) (Leads edges) sorted
  cyclic : ∀ size edges, Inside size edges → (∃ i, TransGen (Leads edges) i i) →
    ∃ e, sort size edges = .error e

/-- The view as a directed graph of packages, with dependencies as successors. -/
def dependencyGraph (v : PackageView) : Digraph Identity Identity where
  key := id
  successors := v.dependencies
  nodes := v.packages

variable {v : PackageView}

/-! ### Nodes and packages -/

namespace WellFormed
variable (hv : v.WellFormed)
include hv

/-- The packages that an edge joins have been added. -/
theorem mem_packages_of_hasEdge {a b : Identity} (h : v.HasEdge a b) :
    a ∈ v.packages ∧ b ∈ v.packages := by
  obtain ⟨i, j, hi, hj, -⟩ := hv.hasEdge_iff.1 h
  exact ⟨List.mem_of_getElem? hi, List.mem_of_getElem? hj⟩

/-- Edges lead from one node to another one as dependencies lead between their packages. -/
theorem transGen_iff {i j : Nat} {a b : Identity} (hi : v.packages[i]? = some a)
    (hj : v.packages[j]? = some b) :
    TransGen (Leads v.edges) i j ↔ TransGen v.HasEdge a b := by
  constructor
  · intro hwalk
    induction hwalk generalizing b with
    | single hedge => exact .single (hv.hasEdge_iff.2 ⟨i, _, hi, hj, hedge⟩)
    | tail _ hedge ih =>
      -- The last edge begins at a node with a package.
      have hk := List.getElem?_eq_getElem (hv.inside _ _ hedge).1
      exact .tail (ih hk) (hv.hasEdge_iff.2 ⟨_, _, hk, hj, hedge⟩)
  · intro hwalk
    induction hwalk generalizing j with
    | single hedge =>
      obtain ⟨i', j', hi', hj', hedge⟩ := hv.hasEdge_iff.1 hedge
      rw [hv.node_unique hi' hi, hv.node_unique hj' hj] at hedge
      exact .single hedge
    | tail _ hedge ih =>
      obtain ⟨k, j', hk, hj', hedge⟩ := hv.hasEdge_iff.1 hedge
      rw [hv.node_unique hj' hj] at hedge
      exact .tail (ih hk) hedge

/-- Edges between nodes lead back exactly where dependencies between packages do. -/
theorem cyclic_iff :
    (∃ i, TransGen (Leads v.edges) i i) ↔ ∃ a, TransGen v.HasEdge a a := by
  constructor
  · rintro ⟨i, hback⟩
    obtain ⟨j, hedge, -⟩ := TransGen.head'_iff.1 hback
    have hi := List.getElem?_eq_getElem (hv.inside i j hedge).1
    exact ⟨_, (hv.transGen_iff hi hi).1 hback⟩
  · rintro ⟨a, hback⟩
    obtain ⟨b, hedge, -⟩ := TransGen.head'_iff.1 hback
    obtain ⟨i, -, hi, -⟩ := hv.hasEdge_iff.1 hedge
    exact ⟨i, (hv.transGen_iff hi hi).2 hback⟩

/-- The packages at all nodes, in an order of the nodes, are all packages in an order. -/
theorem packagesAt_sorted {sorted : List Nat}
    (h : TopologicalOrder (List.range v.packages.length) (Leads v.edges) sorted) :
    TopologicalOrder v.packages v.HasEdge (v.packagesAt sorted) where
  once := hv.nodup_packagesAt h.once
  all := by
    intro a
    rw [mem_packagesAt, List.mem_iff_getElem?]
    constructor
    · rintro ⟨i, -, hi⟩
      exact ⟨i, hi⟩
    · rintro ⟨i, hi⟩
      obtain ⟨hlt, -⟩ := List.getElem?_eq_some_iff.1 hi
      exact ⟨i, (h.all i).2 (List.mem_range.2 hlt), hi⟩
  forward := by
    intro a b hab
    obtain ⟨i, j, hi, hj, hedge⟩ := hv.hasEdge_iff.1 hab
    -- Every node stands for one package, so the two nodes in order give the two packages in order.
    have hsub := (h.forward i j hedge).filterMap fun i => v.packages[i]?
    rwa [List.filterMap_cons_some hi, List.filterMap_cons_some hj, List.filterMap_nil] at hsub

end WellFormed

/-! ### The sort depth first -/

section
variable {size : Nat} {edges : List (Nat × Nat)}

/-- The successors of a node are those to which its edges lead. -/
theorem mem_successors_nodeGraph {i j : Nat} :
    j ∈ (nodeGraph size edges).successors i ↔ Leads edges i j :=
  mem_neighborNodes (d := .outgoing)

/-- Edges that join numbered nodes do not lead out of them. -/
theorem Inside.mem_range (h : Inside size edges) (i j : Nat) (hedge : Leads edges i j) :
    i ∈ List.range size ∧ j ∈ List.range size :=
  (h i j hedge).imp List.mem_range.2 List.mem_range.2

/-- The numbered nodes are all that a walk may meet. -/
theorem Inside.covers (h : Inside size edges) :
    (nodeGraph size edges).Covers (List.range size) where
  starts := fun _ hi => hi
  successors := fun i _ j hj => (h.mem_range i j (mem_successors_nodeGraph.1 hj)).2

end

/-- The sort depth first does what is assumed of a sort. -/
theorem sortsNodes_sortDepthFirst : SortsNodes sortDepthFirst where
  acyclic := by
    intro size edges h hacyclic
    obtain ⟨sorted, hsorted⟩ := (Digraph.exists_sort_iff (fun _ _ heq => heq)
      mem_successors_nodeGraph h.mem_range h.covers).2 hacyclic
    exact ⟨sorted, hsorted, Digraph.topologicalOrder_of_sort (fun _ _ heq => heq)
      mem_successors_nodeGraph h.mem_range h.covers hsorted⟩
  cyclic := by
    intro size edges h hcyclic
    cases hsort : sortDepthFirst size edges with
    | ok sorted =>
      exact absurd hcyclic ((Digraph.exists_sort_iff (fun _ _ heq => heq)
        mem_successors_nodeGraph h.mem_range h.covers).1 ⟨sorted, hsort⟩)
    | error e => exact ⟨e, rfl⟩

/-! ### Both orders -/

section
variable {ε : Type} {sort : Nat → List (Nat × Nat) → Except ε (List Nat)}

/-- An order of the packages is one of the nodes, read backwards. -/
theorem orderBy_eq_ok {ids : List Identity} :
    v.orderBy sort = .ok ids ↔
      ∃ sorted, sort v.packages.length v.edges = .ok sorted ∧
        ids = (v.packagesAt sorted).reverse := by
  rw [orderBy, Except.mapError_eq_ok, Except.map_eq_ok]
  simp only [packagesAt, List.filterMap_reverse]

/-- Packages are put in order exactly if none depends on itself, directly or through others. -/
theorem WellFormed.exists_orderBy_iff (hv : v.WellFormed) (hsort : SortsNodes sort) :
    (∃ ids, v.orderBy sort = .ok ids) ↔ ¬ ∃ a, TransGen v.HasEdge a a := by
  rw [← hv.cyclic_iff]
  constructor
  · rintro ⟨ids, hids⟩ hcyclic
    obtain ⟨sorted, hsorted, -⟩ := orderBy_eq_ok.1 hids
    obtain ⟨e, he⟩ := hsort.cyclic _ _ hv.inside hcyclic
    rw [hsorted] at he
    exact nomatch he
  · intro hacyclic
    obtain ⟨sorted, hsorted, -⟩ := hsort.acyclic _ _ hv.inside hacyclic
    exact ⟨_, orderBy_eq_ok.2 ⟨sorted, hsorted, rfl⟩⟩

/-- Packages are put in an order that, read backwards, is topological. -/
theorem WellFormed.topologicalOrder_orderBy (hv : v.WellFormed) (hsort : SortsNodes sort)
    {ids : List Identity} (h : v.orderBy sort = .ok ids) :
    TopologicalOrder v.packages v.HasEdge ids.reverse := by
  have hacyclic := (hv.exists_orderBy_iff hsort).1 ⟨ids, h⟩
  rw [← hv.cyclic_iff] at hacyclic
  obtain ⟨sorted, hsorted, rfl⟩ := orderBy_eq_ok.1 h
  obtain ⟨sorted', hsorted', horder⟩ := hsort.acyclic _ _ hv.inside hacyclic
  rw [hsorted] at hsorted'
  cases hsorted'
  rw [List.reverse_reverse]
  exact hv.packagesAt_sorted horder

end

/-- A sorter of packages may start from all of them, in any order. -/
theorem WellFormed.covers (hv : v.WellFormed) {starts : List Identity}
    (hstarts : ∀ a, a ∈ starts ↔ a ∈ v.packages) : v.dependencyGraph.Covers starts where
  starts := fun a ha => (hstarts a).1 ha
  successors := fun _ _ _ hb => (hv.mem_packages_of_hasEdge (mem_dependencies.1 hb)).2

/-- After any calls, and whichever sort puts the nodes in order, packages are put in order exactly
if the sorter that walks from all packages along their dependencies succeeds, however many steps
that takes.  The packages are listed once each then, every package behind those that it depends on,
and read backwards this is a list that the sorter may give: a topological order of the dependencies,
as the list is that the sorter gives. -/
theorem orderBy_agrees {ε : Type} {sort : Nat → List (Nat × Nat) → Except ε (List Nat)}
    (hsort : SortsNodes sort) (calls : List Call) {starts : List Identity}
    (hstarts : ∀ a, a ∈ starts ↔ .addPackage a ∈ calls) :
    (madeBy calls).dependencyGraph.SortEnds starts
        ((madeBy calls).dependencyGraph.sort starts) ∧
      ((∃ ids, (madeBy calls).orderBy sort = .ok ids) ↔
        ∃ sorted, (madeBy calls).dependencyGraph.sort starts = .ok sorted) ∧
      (∀ ids, (madeBy calls).orderBy sort = .ok ids →
        TopologicalOrder starts (fun a b => Joins calls b a) ids ∧
          (madeBy calls).dependencyGraph.ListsInOrder starts ids.reverse) ∧
      ∀ sorted, (madeBy calls).dependencyGraph.sort starts = .ok sorted →
        TopologicalOrder starts (Joins calls) sorted := by
  have hv := wellFormed_madeBy calls
  have hpackages (a : Identity) : a ∈ starts ↔ a ∈ (madeBy calls).packages :=
    (hstarts a).trans mem_packages_madeBy.symm
  have hedges : (madeBy calls).HasEdge = Joins calls :=
    funext₂ fun a b => propext hasEdge_madeBy
  have hkey : Function.Injective (madeBy calls).dependencyGraph.key := fun _ _ heq => heq
  -- The digraph that is sorted, in terms of the calls: what its edges are, and that they stay
  -- inside `starts`.
  have hr {a b : Identity} :
      b ∈ (madeBy calls).dependencyGraph.successors a ↔ (madeBy calls).HasEdge a b :=
    mem_dependencies
  have hclosed (a b : Identity) (hab : (madeBy calls).HasEdge a b) : a ∈ starts ∧ b ∈ starts :=
    (hv.mem_packages_of_hasEdge hab).imp (hpackages a).2 (hpackages b).2
  have hcov := hv.covers hpackages
  refine ⟨Digraph.sortEnds_sort (Digraph.keyDetermined_of_injective hkey) hcov, ?_,
    fun ids hids => ?_, fun sorted hsorted => ?_⟩
  · -- Both succeed exactly if no walk of dependencies returns.
    rw [hv.exists_orderBy_iff hsort, Digraph.exists_sort_iff hkey hr hclosed hcov]
  · -- Packages come behind their dependencies here, and before them for the sorter.
    have horder := hv.topologicalOrder_orderBy hsort hids
    have horder' : TopologicalOrder starts (madeBy calls).HasEdge ids.reverse :=
      ⟨horder.once, fun a => (horder.all a).trans (hpackages a).symm, horder.forward⟩
    refine ⟨?_, (Digraph.listsInOrder_iff hkey hr hclosed).2 horder'⟩
    have hback := horder'.reverse
    rwa [List.reverse_reverse, hedges] at hback
  · have horder := Digraph.topologicalOrder_of_sort hkey hr hclosed hcov hsorted
    rwa [hedges] at horder

/-- A package that depends on another one, which depends on a third; an edge to a package that is
not there is left out. -/
def layeredCalls : List Call :=
  [.addPackage ⟨"app"⟩, .addPackage ⟨"kit"⟩, .addPackage ⟨"log"⟩, .addEdge ⟨"app"⟩ ⟨"kit"⟩,
    .addEdge ⟨"kit"⟩ ⟨"log"⟩, .addEdge ⟨"kit"⟩ ⟨"web"⟩]

/-- Dependencies come first, and read backwards last; with an edge from a package to itself there is
no order. -/
theorem orderBy_agrees_layered :
    SortsNodes sortDepthFirst ∧
      (madeBy layeredCalls).order = .ok [⟨"log"⟩, ⟨"kit"⟩, ⟨"app"⟩] ∧
      (madeBy layeredCalls).dependencyGraph.ListsInOrder [⟨"kit"⟩, ⟨"log"⟩, ⟨"app"⟩]
        [⟨"app"⟩, ⟨"kit"⟩, ⟨"log"⟩] ∧
      ¬ ∃ ids, (madeBy (layeredCalls ++ [.addEdge ⟨"log"⟩ ⟨"log"⟩])).order = .ok ids := by
  have hstarts (a : Identity) :
      a ∈ ([⟨"kit"⟩, ⟨"log"⟩, ⟨"app"⟩] : List Identity) ↔ .addPackage a ∈ layeredCalls := by
    simp [layeredCalls, or_left_comm, or_comm]
  have hstarts' (a : Identity) : a ∈ ([⟨"kit"⟩, ⟨"log"⟩, ⟨"app"⟩] : List Identity) ↔
      .addPackage a ∈ layeredCalls ++ [.addEdge ⟨"log"⟩ ⟨"log"⟩] := by
    rw [hstarts, List.mem_append, List.mem_singleton]
    exact (or_iff_left fun h => nomatch h).symm
  have horder : (madeBy layeredCalls).order = .ok [⟨"log"⟩, ⟨"kit"⟩, ⟨"app"⟩] := by
    decide +kernel
  obtain ⟨-, -, hordered, -⟩ := orderBy_agrees sortsNodes_sortDepthFirst layeredCalls hstarts
  obtain ⟨-, hagree, -⟩ := orderBy_agrees sortsNodes_sortDepthFirst
    (layeredCalls ++ [.addEdge ⟨"log"⟩ ⟨"log"⟩]) hstarts'
  refine ⟨sortsNodes_sortDepthFirst, horder, (hordered _ horder).2, fun h => ?_⟩
  -- An order of the second view would be one of its sorter, which fails.
  obtain ⟨sorted, hsorted⟩ := hagree.1 h
  have hfails : (madeBy (layeredCalls ++ [.addEdge ⟨"log"⟩ ⟨"log"⟩])).dependencyGraph.sort
      [⟨"kit"⟩, ⟨"log"⟩, ⟨"app"⟩] = .error ⟨⟩ := by
    decide +kernel
  rw [hfails] at hsorted
  exact nomatch hsorted

end ModuleGraph.PackageView
