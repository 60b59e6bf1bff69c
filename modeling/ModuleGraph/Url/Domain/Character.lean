import ModuleGraph.Url.Domain.CharacterTable

/-! # Characters of domains

What becomes of a character of a domain before anything else is looked at: it stays, it is passed
over, it is replaced, or the domain is refused. -/

namespace ModuleGraph.Url.Domain

/-- Whether a character may stand in a domain as it is. -/
def isAllowed (c : Char) : Bool := Text.inRanges allowedRanges c

/-- What a character outside ASCII becomes; nothing for one that may not stand in a domain. -/
def mapWide? (c : Char) : Option (List Char) :=
  if isAllowed c then some [c]
  else if Text.inRanges ignoredRanges c then some []
  else
    match Text.shift? shifts c.toNat with
    | some target => some [Char.ofNat target]
    | none =>
      (replacements.find? fun row => row.head? == some c.toNat).map fun row =>
        row.tail.map Char.ofNat

/-- What a character becomes. -/
def mapCharacter? (c : Char) : Option (List Char) :=
  if c.toNat < 128 then some [c.toLower] else mapWide? c

/-- The text with every character mapped. -/
def mapText? (cs : List Char) : Option (List Char) := (cs.mapM mapCharacter?).map List.flatten

end ModuleGraph.Url.Domain
