/-! # Edit distance

The least number of insertions, deletions and substitutions that turn one list into another.
`editDistance` is the recursive definition; `tableDistance` computes the same number row by row,
keeping one row of distances between a prefix of the first list and all prefixes of the second. -/

namespace ModuleGraph.Text

variable {α : Type} [DecidableEq α]

/-- What it costs to put `b` in the place of `a`. -/
def substitutionCost (a b : α) : Nat := if a = b then 0 else 1

/-- The edit distance by recursion on both lists. -/
def editDistance : List α → List α → Nat
  | [], t => t.length
  | s, [] => s.length
  | a :: s, b :: t =>
    min (min (editDistance s (b :: t) + 1) (editDistance (a :: s) t + 1))
      (editDistance s t + substitutionCost a b)

/-- The rest of a row: `left` is the entry before, `diagonal` the one above that, and `above` the
remaining entries of the row above. -/
def tableRow (a : α) (left diagonal : Nat) : List α → List Nat → List Nat
  | b :: t, up :: above =>
    let here := min (min (up + 1) (left + 1)) (diagonal + substitutionCost a b)
    here :: tableRow a here up t above
  | _, _ => []

/-- The row below `above`, for one more item `a` of the first list. -/
def nextTableRow (t : List α) (above : List Nat) (a : α) : List Nat :=
  match above with
  | [] => []
  | first :: rest => (first + 1) :: tableRow a (first + 1) first t rest

/-- The edit distance by rows. -/
def tableDistance (s t : List α) : Nat :=
  (s.foldl (nextTableRow t) (List.range (t.length + 1))).getLastD 0

end ModuleGraph.Text
