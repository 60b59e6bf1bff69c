import ModuleGraph.Text.Split
import ModuleGraph.Url.Domain.Direction
import ModuleGraph.Url.Domain.Label

/-! # Domains

A domain in ASCII is what computers look up.  What is written in a URL may have capitals and
characters outside ASCII: the characters are mapped, the text is composed, and each label between
dots is written in ASCII. -/

namespace ModuleGraph.Url.Domain

/-- The labels of a domain; their directions have to agree with each other. -/
def labels? (cs : List Char) : Option (List Label) := do
  let mapped ← mapText? cs
  let labels ← (Text.splitWhere (· == '.') (composed mapped)).mapM Label.read?
  if labels.any (hasRightToLeft ·.text) && !labels.all (hasOneDirection ·.text) then none
  else some labels

/-- Whether a domain is ASCII, and no label is in punycode. -/
def isPlain (cs : List Char) : Bool :=
  isAscii cs && (Text.splitWhere (· == '.') (cs.map Char.toLower)).all fun label =>
    (Text.stripStart? punycodeMark label).isNone

/-- A domain in ASCII. -/
def toAscii? (cs : List Char) : Option (List Char) :=
  -- A domain without anything special needs no tables.
  if isPlain cs then some (cs.map Char.toLower)
  else (labels? cs).map fun labels => ['.'].intercalate (labels.map Label.ascii)

end ModuleGraph.Url.Domain
