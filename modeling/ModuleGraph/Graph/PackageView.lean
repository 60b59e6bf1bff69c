import ModuleGraph.Graph
import ModuleGraph.Loop

/-! # Packages and their dependencies

A view of a graph that knows packages and the dependencies between them.  Every package stands at a
node, and the nodes are numbered in the order in which the packages were added.  An edge joins two
nodes; only packages that have been added can be joined by one, and no edge is added twice. -/

namespace ModuleGraph

structure PackageView where
  /-- The package at each node. -/
  packages : List Identity
  /-- The node of each package. -/
  nodes : SortedMap Identity Nat
  /-- From the node of a package to the node of one that it depends on. -/
  edges : List (Nat × Nat)
  deriving DecidableEq

namespace PackageView

/-- No packages. -/
def empty : PackageView := ⟨[], KeyedSet.empty, []⟩

/-- The node of a package. -/
def node? (v : PackageView) (id : Identity) : Option Nat := v.nodes.get? id

def contains (v : PackageView) (id : Identity) : Bool := (v.node? id).isSome

/-- Adds a package at a new node, unless it has one. -/
def addPackage (v : PackageView) (id : Identity) : PackageView :=
  if v.contains id then v
  else { v with packages := v.packages ++ [id], nodes := v.nodes.put id v.packages.length }

/-- Adds an edge between packages that are there, unless the edge is there. -/
def addEdge (v : PackageView) (source target : Identity) : PackageView :=
  match v.node? source, v.node? target with
  | some i, some j =>
    if v.edges.contains (i, j) then v else { v with edges := v.edges ++ [(i, j)] }
  | _, _ => v

/-- The two ways along an edge. -/
inductive Direction where
  | outgoing
  | incoming

/-- The nodes at the other ends of the edges of a node, in the order in which the edges were
added. -/
def neighborNodes (edges : List (Nat × Nat)) : Direction → Nat → List Nat
  | .outgoing, i => (edges.filter fun e => e.1 == i).map (·.2)
  | .incoming, j => (edges.filter fun e => e.2 == j).map (·.1)

/-- The packages at some nodes. -/
def packagesAt (v : PackageView) (nodes : List Nat) : List Identity :=
  nodes.filterMap fun i => v.packages[i]?

/-- The packages at the other ends of the edges of a package, in the order in which the edges were
added. -/
def neighbors (v : PackageView) (direction : Direction) (id : Identity) : List Identity :=
  match v.node? id with
  | none => []
  | some i => v.packagesAt (neighborNodes v.edges direction i)

/-- What a package depends on, in the order in which the edges were added. -/
def targets (v : PackageView) (id : Identity) : List Identity := v.neighbors .outgoing id

/-- Identities in ascending order. -/
def ascending (ids : List Identity) : List Identity := ids.mergeSort fun a b => compare a b != .gt

/-- What a package depends on directly, ascending. -/
def dependencies (v : PackageView) (id : Identity) : List Identity := ascending (v.targets id)

/-- What depends directly on a package, ascending. -/
def dependents (v : PackageView) (id : Identity) : List Identity :=
  ascending (v.neighbors .incoming id)

/-- Numbered nodes and the edges between them. -/
def nodeGraph (size : Nat) (edges : List (Nat × Nat)) : Digraph Nat Nat where
  key := id
  successors := neighborNodes edges .outgoing
  nodes := List.range size

/-- Sorts numbered nodes depth first, in the order of their numbers. -/
def sortDepthFirst (size : Nat) (edges : List (Nat × Nat)) :
    Except Digraph.CycleFound (List Nat) :=
  (nodeGraph size edges).sort (List.range size)

/-- All packages, dependencies before what depends on them, by a sort of numbered nodes that puts a
node before those to which its edges lead. -/
def orderBy {ε : Type} (sort : Nat → List (Nat × Nat) → Except ε (List Nat)) (v : PackageView) :
    Except GraphError (List Identity) :=
  ((sort v.packages.length v.edges).map fun sorted => v.packagesAt sorted.reverse).mapError
    fun _ => .unexpectedCycle

/-- All packages, dependencies before what depends on them. -/
def order (v : PackageView) : Except GraphError (List Identity) := v.orderBy sortDepthFirst

/-- Packages to expand, the next one first, and the packages that have been found. -/
structure Closure where
  pending : List Identity
  found : SortedSet Identity

/-- Finds one more dependency, which is expanded later if it is new. -/
def Closure.meet (s : Closure) (id : Identity) : Closure :=
  if s.found.contains id then s else ⟨id :: s.pending, s.found.insert id⟩

/-- Expands the next package. -/
def expandNext (v : PackageView) (s : Closure) : Step Closure (SortedSet Identity) :=
  match s.pending with
  | [] => .done s.found
  | id :: pending => .next ((v.dependencies id).foldl Closure.meet { s with pending })

/-- Everything that a package depends on, directly or through others, the package itself left
out. -/
def transitive (v : PackageView) (id : Identity) : SortedSet Identity :=
  -- A package is expanded once, and the first one once more if it is found behind itself.
  ((Loop.run v.expandNext (v.packages.length + 2) ⟨[id], KeyedSet.empty⟩).getD KeyedSet.empty).erase
    id

end PackageView

namespace Graph

/-- The packages of the graph, ascending, and then their dependencies. -/
def packageView (g : Graph) : PackageView :=
  let start := g.packages.keys.foldl PackageView.addPackage PackageView.empty
  g.packages.toList.foldl
    (fun v p => p.dependencies.foldl (fun v target => v.addEdge p.identity target) v) start

end Graph

end ModuleGraph
