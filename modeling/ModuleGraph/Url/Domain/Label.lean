import ModuleGraph.Text.Split
import ModuleGraph.Url.Domain.Character
import ModuleGraph.Url.Domain.Composition
import ModuleGraph.Url.Domain.LabelTable
import ModuleGraph.Url.Punycode

/-! # Labels of domains

A label is the text between two dots.  It is written in ASCII: one with other characters as `xn--`
and punycode.  A label that already begins with `xn--` has to be what the text that it stands for
is written as.  A label does not begin with a mark, and an invisible joiner stands in it only where
it has an effect. -/

namespace ModuleGraph.Url.Domain

structure Label where
  /-- The text as it is read. -/
  text : List Char
  /-- The text as it is written. -/
  ascii : List Char

/-- What begins a label in punycode. -/
def punycodeMark : List Char := ['x', 'n', '-', '-']

def isAscii (cs : List Char) : Bool := cs.all fun c => c.toNat < 128

/-- Whether the first character that is not joined across can join its neighbour. -/
def reachesJoining (joining : List (Nat × Nat)) (cs : List Char) : Bool :=
  match cs.dropWhile (Text.inRanges joinedAcrossRanges) with
  | [] => false
  | c :: _ => Text.inRanges joiningBothRanges c || Text.inRanges joining c

/-- The class of the marks that leave a consonant without its vowel. -/
def vowelKiller : Nat := 9

/-- Whether an invisible joiner may stand after the characters `before`, given in reverse, and
before `after`: behind a mark that takes the vowel away, or, for the joiner that keeps letters
apart, between two letters that would join. -/
def allowsJoiner (before : List Char) (joiner : Char) (after : List Char) : Bool :=
  match before with
  | [] => false
  | previous :: _ =>
    combiningClass previous == vowelKiller ||
      (joiner == '\u200C' && reachesJoining joiningNextRanges before &&
        reachesJoining joiningPreviousRanges after)

/-- Whether all invisible joiners behind the characters `before`, given in reverse, may stand
where they stand. -/
def joinersAllowed (before : List Char) : List Char → Bool
  | [] => true
  | c :: rest =>
    (!(c == '\u200C' || c == '\u200D') || allowsJoiner before c rest) &&
      joinersAllowed (c :: before) rest

/-- The longest label with characters outside ASCII, and the longest text in punycode. -/
def longestText : Nat := 1000

def longestPunycode : Nat := 2000

/-- Whether text with characters outside ASCII may be a label. -/
def isLabelText (cs : List Char) : Bool :=
  !cs.head?.any (Text.inRanges markRanges) && joinersAllowed [] cs && cs.length ≤ longestText

/-- The text that punycode stands for, if it is the punycode of a label. -/
def readPunycode? (code : List Char) : Option (List Char) :=
  -- Without a character behind the last hyphen, plain text would have been enough.
  if code.length ≤ longestPunycode && isAscii code && code.getLast?.any (· != '-') then do
    let text ← Punycode.decode? code
    if text.all isAllowed && composed text == text && isLabelText text then some text
    else none
  else none

/-- The label that a mapped and composed text is. -/
def Label.read? (cs : List Char) : Option Label :=
  match Text.stripStart? punycodeMark cs with
  | some code => (readPunycode? code).map fun text => ⟨text, cs⟩
  | none =>
    if isAscii cs then some ⟨cs, cs⟩
    else if isLabelText cs then some ⟨cs, punycodeMark ++ Punycode.encode cs⟩
    else none

end ModuleGraph.Url.Domain
