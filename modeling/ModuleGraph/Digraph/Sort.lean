import ModuleGraph.Digraph
import ModuleGraph.Loop

/-! # Topological sorting

`sort` walks the graph depth first from a list of start nodes and lists every node that it meets
before the nodes that it leads to: the nodes in the reverse of the order in which they are left.
Meeting a node of the current path is an error.  The walk keeps its path as a stack of frames;
`sortRecursive` is the same walk by recursion on the nodes. -/

namespace ModuleGraph.Digraph

variable {α κ : Type} [DecidableEq κ]

/-- The walk came back to its own path. -/
structure CycleFound where
  deriving DecidableEq

/-- The state of the walk: the path, the innermost frame first; the keys of the nodes that have
been left; and these nodes, the last one first. -/
structure SortState (α κ : Type) where
  stack : List (Frame α)
  left : List κ
  sorted : List α

/-- Looks at the next successor of the innermost node, or leaves that node. -/
def sortStep (g : Digraph α κ) (s : SortState α κ) :
    Step (SortState α κ) (Except CycleFound (SortState α κ)) :=
  match s.stack with
  | [] => .done (.ok s)
  | ⟨node, []⟩ :: stack =>
    -- Everything below the node has been listed, so the node goes in front of it.
    .next { stack, left := g.key node :: s.left, sorted := node :: s.sorted }
  | ⟨node, next :: rest⟩ :: stack =>
    if s.left.contains (g.key next) then .next { s with stack := ⟨node, rest⟩ :: stack }
    -- A node that is entered but not left is on the path: the walk has closed a cycle.
    else if s.stack.any fun f => g.key f.node == g.key next then .done (.error ⟨⟩)
    else .next { s with stack := g.enter next :: ⟨node, rest⟩ :: stack }

/-- Walks from one start node, unless it has been left already. -/
def sortFrom (g : Digraph α κ) (s : SortState α κ) (start : α) :
    Except CycleFound (SortState α κ) :=
  if s.left.contains (g.key start) then .ok s
  else
    (Loop.run g.sortStep g.walkSteps { s with stack := [g.enter start] }).getD (.error ⟨⟩)

/-- Every node that can be reached from the start nodes, each before those it leads to. -/
def sort (g : Digraph α κ) (starts : List α) : Except CycleFound (List α) :=
  (starts.foldlM g.sortFrom ⟨[], [], []⟩).map (·.sorted)

/-- Walks from a list of nodes by recursion.  `path` has the keys of the nodes that have been
entered and not left, and `depth` bounds how many more may be entered below them. -/
def sortBelow (g : Digraph α κ) (depth : Nat) (path : List κ) (nodes : List α)
    (acc : List κ × List α) : Except CycleFound (List κ × List α) :=
  match nodes with
  | [] => .ok acc
  | a :: rest =>
    if acc.1.contains (g.key a) then g.sortBelow depth path rest acc
    else if path.contains (g.key a) then .error ⟨⟩
    else
      match depth with
      -- The path has every node of the graph already.
      | 0 => .error ⟨⟩
      | d + 1 =>
        match g.sortBelow d (g.key a :: path) (g.successors a) acc with
        | .error e => .error e
        | .ok (left, sorted) =>
          g.sortBelow (d + 1) path rest (g.key a :: left, a :: sorted)
termination_by (depth, nodes.length)

/-- The nodes that the recursive walk lists. -/
def sortRecursive (g : Digraph α κ) (starts : List α) : Except CycleFound (List α) :=
  (g.sortBelow g.nodes.length [] starts ([], [])).map (·.2)

end ModuleGraph.Digraph
