import ModuleGraph.Text.CaseTable
import ModuleGraph.Text.CaseProperty

/-! # Full lower-casing

Every character is replaced by its small letter.  Two characters need more than a table: the
dotted capital I becomes an i with a combining dot, and a capital sigma at the end of a word
becomes a final sigma.  A sigma ends a word when, case-ignorable characters skipped, a cased
letter stands before it and none stands after it. -/

namespace ModuleGraph.Text

/-- The small letter of a character taken by itself. -/
def lowerChar (c : Char) : Char :=
  if c.toNat < 128 then c.toLower
  else Char.ofNat ((shift? lowerRows c.toNat).getD c.toNat)

/-- Whether the first character that is not case-ignorable is cased. -/
def startsCased (cs : List Char) : Bool :=
  match cs.dropWhile isCaseIgnorable with
  | [] => false
  | c :: _ => isCased c

/-- The text after the characters `before`, which are in reverse order, in small letters. -/
def lowerFrom (before : List Char) : List Char → List Char
  | [] => []
  | c :: rest =>
    let small : List Char :=
      if c = 'İ' then ['i', '\u0307']
      else if c = 'Σ' then [if startsCased before && !startsCased rest then 'ς' else 'σ']
      else [lowerChar c]
    small ++ lowerFrom (c :: before) rest

/-- The text in small letters. -/
def lowercase (s : String) : String := String.ofList (lowerFrom [] s.toList)

end ModuleGraph.Text
