/-! # Directed graphs

A graph is given by the key that tells its nodes apart, the successors of each node, and a list of
nodes that covers everything a walk may meet.  The list bounds the number of steps of a walk and
has no other part in it.  `Reaches` and `OnCycle` say what the walks are about. -/

namespace ModuleGraph

/-- A finite directed graph with nodes told apart by a key. -/
structure Digraph (α κ : Type) where
  key : α → κ
  successors : α → List α
  nodes : List α

namespace Digraph

variable {α κ : Type}

/-- Zero or more steps from one node to another. -/
inductive Reaches (g : Digraph α κ) : α → α → Prop where
  | refl (a : α) : Reaches g a a
  | step {a b c : α} : b ∈ g.successors a → Reaches g b c → Reaches g a c

/-- Whether the node comes back to itself, up to the key, in one or more steps. -/
def OnCycle (g : Digraph α κ) (a : α) : Prop :=
  ∃ b ∈ g.successors a, ∃ c, g.Reaches b c ∧ g.key c = g.key a

/-- A bound on the steps of a depth-first walk: every node is entered at most once, left once, and
each of its successors is looked at once. -/
def walkSteps (g : Digraph α κ) : Nat :=
  g.nodes.length + (g.nodes.flatMap g.successors).length + 1

/-- A node on the path of a depth-first walk, and its successors that are still to be looked at. -/
structure Frame (α : Type) where
  node : α
  rest : List α

/-- The frame with which a node is entered. -/
def enter (g : Digraph α κ) (a : α) : Frame α := ⟨a, g.successors a⟩

theorem Reaches.trans {g : Digraph α κ} {a b c : α} (h : g.Reaches a b) (h' : g.Reaches b c) :
    g.Reaches a c := by
  induction h with
  | refl => exact h'
  | step hs _ ih => exact .step hs (ih h')

end Digraph

end ModuleGraph
