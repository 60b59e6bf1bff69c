import ModuleGraph.Url.Domain.CompositionTable

/-! # Composed text

A letter with accents can be written as one composed character or as a plain letter with combining
marks after it.  `composed` brings the text of a domain, in which all characters have been mapped,
into the form in which everything is composed that can be: characters are decomposed, the marks
after a letter are ordered by their classes, and then letters and marks are composed again. -/

namespace ModuleGraph.Url.Domain

/-- The class of a combining mark; zero for every other character. -/
def combiningClass (c : Char) : Nat :=
  (combiningClassRows.findSome? fun row =>
    match row with
    | [value, single] => if c.toNat = single then some value else none
    | [value, first, last] => if first ≤ c.toNat ∧ c.toNat ≤ last then some value else none
    | _ => none).getD 0

/-- A syllable of Hangul by its number, the parts of which count in base 19, 21 and 28. -/
def hangulNumber? (c : Char) : Option Nat :=
  if 0xAC00 ≤ c.toNat ∧ c.toNat ≤ 0xD7A3 then some (c.toNat - 0xAC00) else none

/-- The parts of a syllable of Hangul: a first consonant, a vowel and perhaps a last consonant. -/
def hangulParts (number : Nat) : List Char :=
  let last := number % 28
  [Char.ofNat (0x1100 + number / 588), Char.ofNat (0x1161 + number % 588 / 28)] ++
    if last = 0 then [] else [Char.ofNat (0x11A7 + last)]

/-- What a character is composed of; most characters are composed of themselves alone. -/
def decomposed (c : Char) : List Char :=
  match hangulNumber? c with
  | some number => hangulParts number
  | none =>
    ((decompositionRows.find? fun row => row.head? == some c.toNat).map fun row =>
      row.tail.map Char.ofNat).getD [c]

/-- The syllable of Hangul that two characters make. -/
def hangulPair? (a b : Char) : Option Char :=
  if 0x1100 ≤ a.toNat ∧ a.toNat ≤ 0x1112 ∧ 0x1161 ≤ b.toNat ∧ b.toNat ≤ 0x1175 then
    some (Char.ofNat (0xAC00 + ((a.toNat - 0x1100) * 21 + (b.toNat - 0x1161)) * 28))
  else
    match hangulNumber? a with
    | some number =>
      if number % 28 = 0 ∧ 0x11A8 ≤ b.toNat ∧ b.toNat ≤ 0x11C2 then
        some (Char.ofNat (a.toNat + (b.toNat - 0x11A7)))
      else none
    | none => none

/-- The one character that two make. -/
def pair? (a b : Char) : Option Char :=
  let parts := (decomposed a ++ [b]).map Char.toNat
  (hangulPair? a b).or
    ((decompositionRows.find? fun row => row.tail == parts).bind fun row =>
      row.head?.map Char.ofNat)

/-- Puts a character in front of ordered text, behind the marks of lower classes if it is a mark. -/
def placeMark (c : Char) : List Char → List Char
  | [] => [c]
  | d :: rest =>
    if 0 < combiningClass d ∧ combiningClass d < combiningClass c then d :: placeMark c rest
    else c :: d :: rest

/-- The text with the marks after each letter in the order of their classes. -/
def orderMarks (cs : List Char) : List Char := cs.foldr placeMark []

/-- Whether marks behind a letter keep the next character from being composed with the letter. -/
def blocksNext (marks : List Char) (c : Char) : Bool :=
  marks.getLast?.any fun m => combiningClass c ≤ combiningClass m

/-- Composes from a letter on, behind which `marks` stand that were not composed with it. -/
def composeFrom (letter : Char) (marks : List Char) : List Char → List Char
  | [] => letter :: marks
  | c :: rest =>
    match if blocksNext marks c then none else pair? letter c with
    | some both => composeFrom both marks rest
    | none =>
      if combiningClass c = 0 then letter :: marks ++ composeFrom c [] rest
      else composeFrom letter (marks ++ [c]) rest

/-- The text in composed form. -/
def composed (cs : List Char) : List Char :=
  let parts := orderMarks (cs.flatMap decomposed)
  let isMark (c : Char) : Bool := combiningClass c != 0
  -- Marks without a letter in front of them stay as they are.
  parts.takeWhile isMark ++
    match parts.dropWhile isMark with
    | [] => []
    | letter :: rest => composeFrom letter [] rest

end ModuleGraph.Url.Domain
