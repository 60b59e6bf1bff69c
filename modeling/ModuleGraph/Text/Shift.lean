import ModuleGraph.Text.Table

/-! # Shifts

Many mappings of characters move a whole run by one distance: the capital letters of an alphabet
to its small letters, letters of full width to the plain ones. -/

namespace ModuleGraph.Text

/-- A run of characters, `step` apart, that are replaced by characters equally far away from them;
the first one is replaced by `target`. -/
structure Shift where
  first : Nat
  last : Nat
  step : Nat
  target : Nat

/-- What a code point of the run is replaced by. -/
def Shift.map? (s : Shift) (c : Nat) : Option Nat :=
  if s.first ≤ c && c ≤ s.last && (c - s.first) % s.step == 0 then
    some (s.target + (c - s.first))
  else none

/-- What the first run that has the code point replaces it by. -/
def shift? (shifts : List Shift) (c : Nat) : Option Nat := shifts.findSome? (·.map? c)

/-- The runs that a table writes: a single character and its replacement, or first, last, target
and, if it is not one, step. -/
def tableShifts (text : String) : List Shift :=
  (tableRows text).filterMap fun row =>
    match row with
    | [single, target] => some ⟨single, single, 1, target⟩
    | [first, last, target] => some ⟨first, last, 1, target⟩
    | [first, last, target, step] => some ⟨first, last, step, target⟩
    | _ => none

end ModuleGraph.Text
