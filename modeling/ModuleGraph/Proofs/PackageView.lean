import ModuleGraph.Graph.PackageView
import ModuleGraph.Proofs.LoadedGraph
import Mathlib.Data.List.Induction

/-!
# Packages and their dependencies

A view of packages numbers them: every package has one node, and an edge joins two nodes.  The
numbers have no part in what the view says.  After any calls a package depends on another one
exactly if an edge was added between them when both were there, and what a package depends on is
listed in ascending order.

The view of a graph knows the packages of the graph and an edge for every dependency that one of
them has on another one.  In a loaded graph nothing is lost: every dependency is a package of the
graph.

## Key results

- `PackageView.mem_neighbors`: what stands at the other ends of the edges of a package
- `PackageView.mem_packages_madeBy`, `PackageView.hasEdge_madeBy`: the packages and edges of a view
  after any calls
- `Graph.mem_edges_packageView`: the edges of the view of a graph
- `Source.BuiltFrom.mem_dependencies`: what the view says a package of a loaded graph depends on
-/

namespace ModuleGraph

namespace PackageView

/-- The edges join nodes with numbers below a bound. -/
def Inside (size : Nat) (edges : List (Nat × Nat)) : Prop :=
  ∀ i j, (i, j) ∈ edges → i < size ∧ j < size

/-- What keeps nodes and packages together: the node of a package is the place where the package
stands, and no two edges join the same nodes. -/
structure WellFormed (v : PackageView) : Prop where
  node : ∀ a i, v.node? a = some i ↔ v.packages[i]? = some a
  inside : Inside v.packages.length v.edges
  once : v.edges.Nodup

/-- The edge that leads from a node in a direction to another one. -/
def Direction.edge : Direction → Nat → Nat → Nat × Nat
  | .outgoing, i, j => (i, j)
  | .incoming, i, j => (j, i)

/-- An edge leads from the node of the first package to where the second one stands. -/
def HasEdge (v : PackageView) (source target : Identity) : Prop :=
  ∃ i j, v.node? source = some i ∧ v.packages[j]? = some target ∧ (i, j) ∈ v.edges

/-- A call that adds a package or an edge. -/
inductive Call where
  | addPackage (id : Identity)
  | addEdge (source target : Identity)

/-- The view after the call. -/
def Call.apply (v : PackageView) : Call → PackageView
  | .addPackage id => v.addPackage id
  | .addEdge source target => v.addEdge source target

/-- The view that calls make of the empty one. -/
def madeBy (calls : List Call) : PackageView := calls.foldl Call.apply empty

/-- The calls add an edge between packages that have both been added before. -/
def Joins (calls : List Call) (source target : Identity) : Prop :=
  ∃ before after, calls = before ++ .addEdge source target :: after ∧
    .addPackage source ∈ before ∧ .addPackage target ∈ before

variable {v : PackageView} {source target a b : Identity}

/-! ### Neighbors -/

/-- The nodes beside a node are at the other ends of its edges. -/
theorem mem_neighborNodes {edges : List (Nat × Nat)} {d : Direction} {i j : Nat} :
    j ∈ neighborNodes edges d i ↔ d.edge i j ∈ edges := by
  cases d with
  | outgoing => simp [neighborNodes, Direction.edge]
  | incoming => simp [neighborNodes, Direction.edge]

/-- Edges that do not repeat lead to nodes that do not repeat. -/
theorem nodup_neighborNodes {edges : List (Nat × Nat)} (h : edges.Nodup) (d : Direction) (i : Nat) :
    (neighborNodes edges d i).Nodup := by
  cases d with
  | outgoing =>
    refine (h.filter _).map_on fun e he e' he' heq => Prod.ext ?_ heq
    rw [beq_iff_eq.1 (List.mem_filter.1 he).2, beq_iff_eq.1 (List.mem_filter.1 he').2]
  | incoming =>
    refine (h.filter _).map_on fun e he e' he' heq => Prod.ext heq ?_
    rw [beq_iff_eq.1 (List.mem_filter.1 he).2, beq_iff_eq.1 (List.mem_filter.1 he').2]

/-- The packages at some nodes stand there. -/
theorem mem_packagesAt {nodes : List Nat} :
    a ∈ v.packagesAt nodes ↔ ∃ i ∈ nodes, v.packages[i]? = some a := List.mem_filterMap

/-- The packages beside a package stand at the other ends of its edges. -/
theorem mem_neighbors {d : Direction} :
    b ∈ v.neighbors d a ↔
      ∃ i j, v.node? a = some i ∧ v.packages[j]? = some b ∧ d.edge i j ∈ v.edges := by
  rw [neighbors]
  cases v.node? a with
  | none => exact ⟨fun hb => (nomatch hb), fun ⟨_, _, hi, _⟩ => (nomatch hi)⟩
  | some i =>
    dsimp only
    rw [mem_packagesAt]
    constructor
    · rintro ⟨j, hmem, hj⟩
      exact ⟨i, j, rfl, hj, mem_neighborNodes.1 hmem⟩
    · rintro ⟨_, j, hi, hj, hedge⟩
      cases hi
      exact ⟨j, mem_neighborNodes.2 hedge, hj⟩

/-- What a package depends on is at the other end of its edges. -/
theorem mem_dependencies : target ∈ v.dependencies source ↔ v.HasEdge source target := by
  rw [dependencies, ascending, List.mem_mergeSort, targets, mem_neighbors]
  rfl

/-- What a package depends on has been added. -/
theorem HasEdge.target_mem (h : v.HasEdge source target) : target ∈ v.packages := by
  obtain ⟨i, j, -, hj, -⟩ := h
  exact List.mem_of_getElem? hj

namespace WellFormed
variable (hv : v.WellFormed)
include hv

/-- A package stands at one node. -/
theorem node_unique {i j : Nat} (hi : v.packages[i]? = some a) (hj : v.packages[j]? = some a) :
    i = j :=
  Option.some.inj (((hv.node a i).2 hi).symm.trans ((hv.node a j).2 hj))

/-- The packages that are there are those with a node. -/
theorem mem_packages_iff : a ∈ v.packages ↔ ∃ i, v.node? a = some i := by
  simp only [List.mem_iff_getElem?, hv.node]

/-- A view contains the packages that are there. -/
theorem contains_iff : v.contains a = true ↔ a ∈ v.packages := by
  rw [hv.mem_packages_iff, contains, Option.isSome_iff_exists]

/-- An edge leads from where one package stands to where another one does. -/
theorem hasEdge_iff :
    v.HasEdge source target ↔
      ∃ i j, v.packages[i]? = some source ∧ v.packages[j]? = some target ∧ (i, j) ∈ v.edges := by
  simp only [HasEdge, hv.node]

/-- A package is listed as a dependent of those that it depends on. -/
theorem mem_dependents : source ∈ v.dependents target ↔ v.HasEdge source target := by
  rw [dependents, ascending, List.mem_mergeSort, mem_neighbors, hv.hasEdge_iff]
  simp only [hv.node]
  constructor
  · rintro ⟨j, i, hj, hi, hedge⟩
    exact ⟨i, j, hi, hj, hedge⟩
  · rintro ⟨i, j, hi, hj, hedge⟩
    exact ⟨j, i, hj, hi, hedge⟩

/-- Different nodes have different packages. -/
theorem nodup_packagesAt {nodes : List Nat} (h : nodes.Nodup) : (v.packagesAt nodes).Nodup :=
  h.filterMap fun _ _ _ hi hj => hv.node_unique hi hj

/-- The packages beside a package are listed in ascending order, once each. -/
theorem pairwise_neighbors (d : Direction) (a : Identity) :
    (ascending (v.neighbors d a)).Pairwise fun b c => compare b c = .lt := by
  have hnodup : (v.neighbors d a).Nodup := by
    rw [neighbors]
    cases v.node? a with
    | none => exact .nil
    | some i => exact hv.nodup_packagesAt (nodup_neighborNodes hv.once d i)
  refine List.pairwise_lt_mergeSort ?_
  rwa [List.map_id']

end WellFormed

/-! ### One call -/

/-- Adding a package that is there changes nothing. -/
theorem addPackage_of_contains (h : v.contains a = true) : v.addPackage a = v := by
  rw [addPackage, if_pos h]

/-- A new package is added at a node of its own, behind the others. -/
theorem addPackage_of_new (h : ¬ v.contains a = true) :
    v.addPackage a =
      { v with packages := v.packages ++ [a], nodes := v.nodes.put a v.packages.length } := by
  rw [addPackage, if_neg h]

/-- Adding an edge adds no packages. -/
theorem packages_addEdge : (v.addEdge source target).packages = v.packages := by
  rw [addEdge]
  repeat' split
  all_goals rfl

/-- Adding an edge adds no nodes. -/
theorem node?_addEdge : (v.addEdge source target).node? a = v.node? a := by
  rw [addEdge]
  repeat' split
  all_goals rfl

/-- Adding an edge adds it if both ends have nodes. -/
theorem mem_edges_addEdge {e : Nat × Nat} :
    e ∈ (v.addEdge source target).edges ↔
      e ∈ v.edges ∨ v.node? source = some e.1 ∧ v.node? target = some e.2 := by
  rw [addEdge]
  split
  · next i j hi hj =>
    have he : some i = some e.1 ∧ some j = some e.2 ↔ e = (i, j) := by
      rw [Option.some_inj, Option.some_inj, Prod.ext_iff, eq_comm, eq_comm (a := j)]
    rw [hi, hj, he]
    split
    · next hmem =>
      have hold := List.contains_iff_mem.1 hmem
      exact ⟨.inl, fun h => h.elim id fun heq => heq ▸ hold⟩
    · rw [List.mem_append, List.mem_singleton]
  · next hnone =>
    exact ⟨.inl, fun h => h.elim id fun ⟨hi, hj⟩ => (hnone _ _ hi hj).elim⟩

namespace WellFormed

/-- A view with no packages. -/
theorem empty : PackageView.empty.WellFormed where
  node := fun _ _ => ⟨fun h => (nomatch h), fun h => (nomatch h)⟩
  inside := fun _ _ he => nomatch he
  once := .nil

variable (hv : v.WellFormed)
include hv

/-- A new package stands at the node that it is given. -/
theorem addPackage (a : Identity) : (v.addPackage a).WellFormed := by
  by_cases hold : v.contains a = true
  · rwa [addPackage_of_contains hold]
  · rw [addPackage_of_new hold]
    refine ⟨fun b i => ?_, fun i j he => ?_, hv.once⟩
    · -- The nodes that are there stand for other packages.
      have hne (h : v.packages[i]? = some b) : b ≠ a := fun heq =>
        hold (hv.contains_iff.2 (heq ▸ List.mem_of_getElem? h))
      rw [node?, SortedMap.get?_put_eq_some, List.getElem?_concat_eq_some, ← node?, hv.node]
      constructor
      · rintro (⟨heq, hi⟩ | ⟨-, hb⟩)
        · exact .inr ⟨hi, heq⟩
        · exact .inl hb
      · rintro (hb | ⟨hi, heq⟩)
        · exact .inr ⟨hne hb, hb⟩
        · exact .inl ⟨heq, hi⟩
    · obtain ⟨hi, hj⟩ := hv.inside i j he
      rw [List.length_append]
      exact ⟨Nat.lt_add_right _ hi, Nat.lt_add_right _ hj⟩

/-- A new edge joins nodes that are there. -/
theorem addEdge (source target : Identity) : (v.addEdge source target).WellFormed where
  node := fun b i => by rw [node?_addEdge, packages_addEdge, hv.node]
  -- Both ends of the new edge are nodes of packages.
  inside := by
    intro i j he
    rw [packages_addEdge]
    rcases mem_edges_addEdge.1 he with he | ⟨hi, hj⟩
    · exact hv.inside i j he
    · obtain ⟨hi', -⟩ := List.getElem?_eq_some_iff.1 ((hv.node _ _).1 hi)
      obtain ⟨hj', -⟩ := List.getElem?_eq_some_iff.1 ((hv.node _ _).1 hj)
      exact ⟨hi', hj'⟩
  once := by
    rw [PackageView.addEdge]
    split
    · split
      · exact hv.once
      · next hnew =>
        -- An edge is added only if it is not there.
        refine List.nodup_append.2 ⟨hv.once, List.nodup_singleton _, fun e he e' he' heq => ?_⟩
        rw [List.mem_singleton.1 he'] at heq
        exact hnew (List.contains_iff_mem.2 (heq ▸ he))
    · exact hv.once

/-- Adding a package adds it, and nothing else. -/
theorem mem_packages_addPackage : b ∈ (v.addPackage a).packages ↔ b ∈ v.packages ∨ b = a := by
  by_cases hold : v.contains a = true
  · rw [addPackage_of_contains hold]
    exact ⟨.inl, fun h => h.elim id fun heq => heq ▸ hv.contains_iff.1 hold⟩
  · rw [addPackage_of_new hold, List.mem_append, List.mem_singleton]

/-- Adding a package adds no edges. -/
theorem hasEdge_addPackage :
    (v.addPackage a).HasEdge source target ↔ v.HasEdge source target := by
  rw [(hv.addPackage a).hasEdge_iff, hv.hasEdge_iff]
  by_cases hold : v.contains a = true
  · rw [addPackage_of_contains hold]
  · rw [addPackage_of_new hold]
    refine exists₂_congr fun i j => ?_
    simp only [List.getElem?_concat_eq_some]
    constructor
    · -- The new node is the end of no edge.
      rintro ⟨hi, hj, hedge⟩
      obtain ⟨hi', hj'⟩ := hv.inside i j hedge
      exact ⟨hi.resolve_right fun h => absurd h.1 hi'.ne, hj.resolve_right fun h =>
        absurd h.1 hj'.ne, hedge⟩
    · rintro ⟨hi, hj, hedge⟩
      exact ⟨.inl hi, .inl hj, hedge⟩

/-- Adding an edge adds it if both of its packages are there. -/
theorem hasEdge_addEdge :
    (v.addEdge source target).HasEdge a b ↔
      v.HasEdge a b ∨ (a = source ∧ b = target) ∧ source ∈ v.packages ∧ target ∈ v.packages := by
  rw [(hv.addEdge source target).hasEdge_iff, hv.hasEdge_iff]
  simp only [packages_addEdge, mem_edges_addEdge, hv.node]
  constructor
  · rintro ⟨i, j, hi, hj, hedge | ⟨hsource, htarget⟩⟩
    · exact .inl ⟨i, j, hi, hj, hedge⟩
    · have ha : a = source := Option.some.inj (hi.symm.trans hsource)
      have hb : b = target := Option.some.inj (hj.symm.trans htarget)
      exact .inr ⟨⟨ha, hb⟩, List.mem_of_getElem? hsource, List.mem_of_getElem? htarget⟩
  · rintro (⟨i, j, hi, hj, hedge⟩ | ⟨⟨rfl, rfl⟩, hsource, htarget⟩)
    · exact ⟨i, j, hi, hj, .inl hedge⟩
    · obtain ⟨i, hi⟩ := List.mem_iff_getElem?.1 hsource
      obtain ⟨j, hj⟩ := List.mem_iff_getElem?.1 htarget
      exact ⟨i, j, hi, hj, .inr ⟨hi, hj⟩⟩

end WellFormed

/-! ### Any calls -/

section
variable {calls : List Call}

/-- The last call is made on what the calls before it have made. -/
theorem madeBy_concat (calls : List Call) (c : Call) :
    madeBy (calls ++ [c]) = c.apply (madeBy calls) := by
  rw [madeBy, List.foldl_concat]
  rfl

/-- The last call joins packages if it adds an edge and they have been added before. -/
theorem joins_concat {c : Call} :
    Joins (calls ++ [c]) a b ↔
      Joins calls a b ∨
        c = .addEdge a b ∧ .addPackage a ∈ calls ∧ .addPackage b ∈ calls := by
  unfold Joins
  rw [List.exists_split_concat, or_comm, eq_comm (b := c)]

/-- Where all packages are added before any edge, every edge between them joins its packages. -/
theorem joins_append {packages edges : List Call}
    (hpackages : ∀ c ∈ packages, ∃ id, c = .addPackage id)
    (hedges : ∀ c ∈ edges, ∃ source target, c = .addEdge source target) :
    Joins (packages ++ edges) a b ↔
      .addEdge a b ∈ edges ∧ .addPackage a ∈ packages ∧ .addPackage b ∈ packages := by
  constructor
  · rintro ⟨before, after, heq, ha, hb⟩
    -- What is added before the edge is a package, and these come all first.
    have hadded {id : Identity} (hid : .addPackage id ∈ before) : .addPackage id ∈ packages := by
      have hmem : .addPackage id ∈ packages ++ edges := heq ▸ List.mem_append_left _ hid
      refine (List.mem_append.1 hmem).resolve_right fun h => ?_
      obtain ⟨source, target, hne⟩ := hedges _ h
      exact nomatch hne
    have hmem : .addEdge a b ∈ packages ++ edges := by simp [heq]
    refine ⟨(List.mem_append.1 hmem).resolve_left fun h => ?_, hadded ha, hadded hb⟩
    obtain ⟨id, hne⟩ := hpackages _ h
    exact nomatch hne
  · rintro ⟨hedge, ha, hb⟩
    obtain ⟨before, after, rfl⟩ := List.append_of_mem hedge
    exact ⟨packages ++ before, after, (List.append_assoc ..).symm, List.mem_append_left _ ha,
      List.mem_append_left _ hb⟩

/-- A view that calls have made is well-formed. -/
theorem wellFormed_madeBy (calls : List Call) : (madeBy calls).WellFormed := by
  induction calls using List.reverseRecOn with
  | nil => exact .empty
  | append_singleton calls c ih =>
    rw [madeBy_concat]
    cases c with
    | addPackage id => exact ih.addPackage id
    | addEdge source target => exact ih.addEdge source target

/-- A view has the packages that calls have added. -/
theorem mem_packages_madeBy : a ∈ (madeBy calls).packages ↔ .addPackage a ∈ calls := by
  induction calls using List.reverseRecOn with
  | nil => exact ⟨fun ha => (nomatch ha), fun ha => (nomatch ha)⟩
  | append_singleton calls c ih =>
    rw [madeBy_concat, List.mem_append, List.mem_singleton, ← ih]
    cases c with
    | addPackage id =>
      rw [Call.apply, (wellFormed_madeBy calls).mem_packages_addPackage, Call.addPackage.injEq]
    | addEdge source target =>
      rw [Call.apply, packages_addEdge]
      exact (or_iff_left fun h => nomatch h).symm

/-- A view has the edges that calls have added between packages that were there. -/
theorem hasEdge_madeBy : (madeBy calls).HasEdge a b ↔ Joins calls a b := by
  -- From the end: the last call finds the packages that the calls before it have added.
  induction calls using List.reverseRecOn with
  | nil =>
    exact ⟨fun ⟨_, _, _, _, hedge⟩ => (nomatch hedge), fun h => absurd h List.not_exists_split_nil⟩
  | append_singleton calls c ih =>
    rw [madeBy_concat, joins_concat, ← ih]
    have hv := wellFormed_madeBy calls
    cases c with
    | addPackage id =>
      rw [Call.apply, hv.hasEdge_addPackage]
      exact (or_iff_left fun h => nomatch h.1).symm
    | addEdge source target =>
      rw [Call.apply, hv.hasEdge_addEdge, mem_packages_madeBy, mem_packages_madeBy,
        Call.addEdge.injEq]
      constructor
      · rintro (h | ⟨⟨rfl, rfl⟩, hsource, htarget⟩)
        · exact .inl h
        · exact .inr ⟨⟨rfl, rfl⟩, hsource, htarget⟩
      · rintro (h | ⟨⟨rfl, rfl⟩, hsource, htarget⟩)
        · exact .inl h
        · exact .inr ⟨⟨rfl, rfl⟩, hsource, htarget⟩

end

end PackageView

/-! ### The view of a graph -/

namespace Graph
variable {g : Graph}

/-- A package of the graph depends on another one. -/
def DependsOn (g : Graph) (source target : Identity) : Prop :=
  ∃ p ∈ g.packages.toList, p.identity = source ∧ target ∈ p.dependencies

/-- The calls that make the view of a graph. -/
def viewCalls (g : Graph) : List PackageView.Call :=
  g.packages.keys.map .addPackage ++
    g.packages.toList.flatMap fun p => p.dependencies.map (.addEdge p.identity)

/-- The view of a graph is made by calls, first for the packages and then for the edges. -/
theorem packageView_eq (g : Graph) : g.packageView = PackageView.madeBy g.viewCalls := by
  rw [PackageView.madeBy, viewCalls, List.foldl_append, List.foldl_map, List.foldl_flatMap]
  simp only [List.foldl_map]
  rfl

/-- The view is made by a call for every dependency. -/
theorem addEdge_mem_viewCalls {source target : Identity} :
    .addEdge source target ∈ g.packages.toList.flatMap (fun p =>
      p.dependencies.map (PackageView.Call.addEdge p.identity)) ↔ g.DependsOn source target := by
  simp only [List.mem_flatMap, List.mem_map, PackageView.Call.addEdge.injEq, DependsOn]
  constructor
  · rintro ⟨p, hp, b, hb, hsource, rfl⟩
    exact ⟨p, hp, hsource, hb⟩
  · rintro ⟨p, hp, hsource, htarget⟩
    exact ⟨p, hp, target, htarget, hsource, rfl⟩

/-- The view has an edge for every dependency between packages of the graph. -/
theorem mem_edges_packageView {source target : Identity} :
    g.packageView.HasEdge source target ↔
      source ∈ g.packages.keys ∧ g.DependsOn source target ∧ target ∈ g.packages.keys := by
  rw [packageView_eq, PackageView.hasEdge_madeBy, viewCalls, PackageView.joins_append,
    addEdge_mem_viewCalls, and_left_comm]
  · simp
  · intro c hc
    obtain ⟨id, -, rfl⟩ := List.mem_map.1 hc
    exact ⟨id, rfl⟩
  · intro c hc
    obtain ⟨p, -, hc⟩ := List.mem_flatMap.1 hc
    obtain ⟨target, -, rfl⟩ := List.mem_map.1 hc
    exact ⟨p.identity, target, rfl⟩

end Graph

/-- In a loaded graph, the view knows all dependencies. -/
theorem Source.BuiltFrom.mem_dependencies {s : Source} {g : Graph} {parts : Parts}
    (h : s.BuiltFrom g parts) {source target : Identity} :
    target ∈ g.packageView.dependencies source ↔ g.DependsOn source target := by
  rw [PackageView.mem_dependencies, Graph.mem_edges_packageView]
  refine ⟨fun hmem => hmem.2.1, fun hdepends => ?_⟩
  obtain ⟨p, hp, rfl, htarget⟩ := hdepends
  obtain ⟨q, hq, rfl⟩ := h.exists_dependency hp htarget
  exact ⟨List.mem_map_of_mem hp, ⟨p, hp, rfl, htarget⟩, List.mem_map_of_mem hq⟩

end ModuleGraph
