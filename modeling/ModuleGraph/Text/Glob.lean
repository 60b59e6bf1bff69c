import ModuleGraph.Text.Ascii

/-! # Glob patterns

A star stands for any text, the empty one and one with a leading dot included; every other
character stands for itself, ASCII letters in either case. -/

namespace ModuleGraph.Text

/-- What is left of a list after dropping 0, 1, 2, … items. -/
def suffixes {α : Type} : List α → List (List α)
  | [] => [[]]
  | a :: rest => (a :: rest) :: suffixes rest

/-- Whether the pattern matches the whole text. -/
def globMatches : (pattern text : List Char) → Bool
  | [], text => text.isEmpty
  | p :: pattern, text =>
    if p = '*' then (suffixes text).any (globMatches pattern)
    else
      match text with
      | [] => false
      | c :: rest => p.toLower == c.toLower && globMatches pattern rest

end ModuleGraph.Text
