import ModuleGraph.Text.Lowercase
import ModuleGraph.Text.EditDistance

/-! # Similar names

For a name that was not found, `Similarity.byEdits` proposes the candidate with the fewest edits,
letter case disregarded, if it is near enough; of equally near ones, the first. -/

namespace ModuleGraph

/-- Picks from candidates one that is similar to a name. -/
abbrev Similarity := String → List String → Option String

namespace Similarity

/-- How many edits still count as similar: the longer the name, the more. -/
def tolerance (name : String) : Nat :=
  let n := name.length
  if n ≤ 2 then 1 else if n ≤ 5 then 2 else 3

/-- The number of edits between two names, letter case disregarded. -/
def distance (name candidate : String) : Nat :=
  Text.tableDistance (Text.lowercase name).toList (Text.lowercase candidate).toList

/-- Keeps the better of the best candidate so far and the next one; the earlier wins a tie. -/
def better (name : String) (best : Option (String × Nat)) (candidate : String) :
    Option (String × Nat) :=
  let d := distance name candidate
  if tolerance name < d then best
  else
    match best with
    | some (_, least) => if least ≤ d then best else some (candidate, d)
    | none => some (candidate, d)

/-- The first of the nearest candidates, if it is within the tolerance. -/
def byEdits : Similarity := fun name candidates =>
  (candidates.foldl (better name) none).map (·.1)

/-- Proposes nothing. -/
def never : Similarity := fun _ _ => none

end Similarity

end ModuleGraph
