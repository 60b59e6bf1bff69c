import ModuleGraph.Digraph
import ModuleGraph.Loop

/-! # Finding a cycle

`findCycle` walks like the topological sort, and reports the first cycle that it closes: the way
from a start node to the cycle, and the cycle itself, whose last node leads back to its first. -/

namespace ModuleGraph

/-- A cycle, and how it was reached. -/
structure Cycle (α : Type) where
  path : List α
  cycle : List α

namespace Cycle

/-- The same cycle with other nodes. -/
def map {α β : Type} (f : α → β) (c : Cycle α) : Cycle β := ⟨c.path.map f, c.cycle.map f⟩

/-- All nodes on the way, the first node of the cycle once more at the end. -/
def closedWalk {α : Type} (c : Cycle α) : List α := c.path ++ c.cycle ++ c.cycle.head?.toList

end Cycle

namespace Digraph

variable {α κ : Type} [DecidableEq κ]

/-- The state of the walk: the path, the innermost frame first, and the keys of the nodes that have
been left. -/
structure CycleState (α κ : Type) where
  stack : List (Frame α)
  left : List κ

/-- The path as a cycle that begins at the node with the given key. -/
def closeAt (g : Digraph α κ) (k : κ) (stack : List (Frame α)) : Cycle α :=
  let nodes := stack.reverse.map (·.node)
  let before (a : α) : Bool := g.key a != k
  ⟨nodes.takeWhile before, nodes.dropWhile before⟩

/-- Looks at the next successor of the innermost node, or leaves that node. -/
def cycleStep (g : Digraph α κ) (s : CycleState α κ) :
    Step (CycleState α κ) (Except (Cycle α) (List κ)) :=
  match s.stack with
  | [] => .done (.ok s.left)
  | ⟨node, []⟩ :: stack => .next ⟨stack, g.key node :: s.left⟩
  | ⟨node, next :: rest⟩ :: stack =>
    if s.left.contains (g.key next) then .next { s with stack := ⟨node, rest⟩ :: stack }
    -- The path from the first visit of `next` to `node` is the cycle.
    else if s.stack.any fun f => g.key f.node == g.key next then
      .done (.error (g.closeAt (g.key next) s.stack))
    else .next { s with stack := g.enter next :: ⟨node, rest⟩ :: stack }

/-- Walks from one start node, unless it has been left already. -/
def cycleFrom (g : Digraph α κ) (left : List κ) (start : α) : Except (Cycle α) (List κ) :=
  if left.contains (g.key start) then .ok left
  else (Loop.run g.cycleStep g.walkSteps ⟨[g.enter start], left⟩).getD (.ok left)

/-- The first cycle that a walk from the start nodes closes. -/
def findCycle (g : Digraph α κ) (starts : List α) : Option (Cycle α) :=
  match starts.foldlM g.cycleFrom [] with
  | .ok _ => none
  | .error c => some c

end Digraph

end ModuleGraph
