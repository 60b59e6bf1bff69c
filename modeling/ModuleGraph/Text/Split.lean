/-! # Cutting text at separators

`splitWhere` cuts at every character that satisfies a test, and always gives at least one piece;
`String.intercalate` is its inverse when the test names one character.  `cutThrough?` cuts at the
first place where a given text stands. -/

namespace ModuleGraph.Text

/-- The pieces between the characters that satisfy `p`. -/
def splitWhere (p : Char → Bool) : List Char → List (List Char)
  | [] => [[]]
  | c :: rest =>
    if p c then [] :: splitWhere p rest
    else
      match splitWhere p rest with
      | [] => [[c]]
      | piece :: pieces => (c :: piece) :: pieces

theorem splitWhere_ne_nil (p : Char → Bool) (cs : List Char) : splitWhere p cs ≠ [] := by
  cases cs with
  | nil => simp [splitWhere]
  | cons c rest =>
    rw [splitWhere]
    split
    · simp
    · split <;> simp

/-- The piece after the last character that satisfies `p`. -/
def lastPiece (p : Char → Bool) (cs : List Char) : List Char :=
  (cs.reverse.takeWhile fun c => !p c).reverse

/-- The text without `start`, if it begins with it. -/
def stripStart? : (start cs : List Char) → Option (List Char)
  | [], cs => some cs
  | _ :: _, [] => none
  | a :: start, c :: cs => if a = c then stripStart? start cs else none

/-- The text without `ending`, if it ends with it. -/
def stripEnd? (ending cs : List Char) : Option (List Char) :=
  (stripStart? ending.reverse cs.reverse).map List.reverse

/-- What follows the first occurrence of `mark`. -/
def cutThrough? (mark : List Char) : List Char → Option (List Char)
  | [] => stripStart? mark []
  | c :: rest => (stripStart? mark (c :: rest)).or (cutThrough? mark rest)

/-- The text with the first `a`, if there is one, turned into `b`. -/
def replaceFirst (a b : Char) : List Char → List Char
  | [] => []
  | c :: rest => if c = a then b :: rest else c :: replaceFirst a b rest

end ModuleGraph.Text
