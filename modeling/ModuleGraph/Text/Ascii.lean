/-! # Comparing texts without regard to ASCII case

Only the letters A to Z have a counterpart here; every other character is equal to itself alone. -/

namespace ModuleGraph.Text

/-- The text with A to Z in small letters and everything else as it is. -/
def asciiFold (s : String) : List Char := s.toList.map Char.toLower

/-- Whether two texts are equal up to the case of ASCII letters. -/
def equalFold (s t : String) : Bool := asciiFold s == asciiFold t

theorem equalFold_iff {s t : String} : equalFold s t = true ↔ asciiFold s = asciiFold t :=
  beq_iff_eq

theorem equalFold_symm {s t : String} : equalFold s t = equalFold t s := BEq.comm

end ModuleGraph.Text
