import ModuleGraph.Text.Blank
import ModuleGraph.Url.Domain.LabelTable

/-! # The direction of labels

Some scripts are written from right to left.  In a domain with characters of such a script, or
with digits in the Arabic style, every label has one direction: that of its first character, which
has to be a letter.  Signs may stand in between, but not at the end. -/

namespace ModuleGraph.Url.Domain

/-- How a character is written. -/
inductive Direction where
  | leftToRight
  | rightToLeft
  | europeanDigit
  | arabicDigit
  /-- A mark, which follows what it belongs to. -/
  | mark
  /-- A sign, which follows what stands around it. -/
  | neutral
  deriving DecidableEq

def directionOf (c : Char) : Direction :=
  if Text.inRanges rightToLeftRanges c then .rightToLeft
  else if Text.inRanges europeanDigitRanges c then .europeanDigit
  else if Text.inRanges arabicDigitRanges c then .arabicDigit
  else if Text.inRanges directionlessMarkRanges c then .mark
  else if Text.inRanges neutralRanges c then .neutral
  else .leftToRight

/-- Whether a text makes the directions of all labels matter. -/
def hasRightToLeft (cs : List Char) : Bool :=
  cs.any fun c => directionOf c = .rightToLeft ∨ directionOf c = .arabicDigit

/-- Whether directions are those of a label from left to right: a left-to-right character or a
digit at the end, and nothing from right to left. -/
def runsLeftToRight (directions : List Direction) : Bool :=
  directions.getLast?.any [.leftToRight, .europeanDigit].contains &&
    directions.all [.leftToRight, .europeanDigit, .neutral, .mark].contains

/-- Whether directions are those of a label from right to left: a right-to-left character or a
digit at the end, nothing from left to right, and digits of one style. -/
def runsRightToLeft (directions : List Direction) : Bool :=
  directions.getLast?.any [.rightToLeft, .europeanDigit, .arabicDigit].contains &&
    !directions.contains .leftToRight &&
    !(directions.contains .europeanDigit && directions.contains .arabicDigit)

/-- Whether a label has one direction; marks at its end follow what stands before them. -/
def hasOneDirection (cs : List Char) : Bool :=
  let directions := cs.map directionOf
  let body := (directions.reverse.dropWhile (· = .mark)).reverse
  match directions with
  | [] => true
  | .leftToRight :: _ => runsLeftToRight body
  | .rightToLeft :: _ => runsRightToLeft body
  | _ => false

end ModuleGraph.Url.Domain
