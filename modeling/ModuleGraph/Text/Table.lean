import ModuleGraph.Text.Hexadecimal

/-! # Tables of characters, written as text

A table is a list of rows of code points.  In text, rows are separated by blanks or line breaks,
and the code points of a row, in base 16, by hyphens.  A table of ranges has rows of one or two
code points: a single character, or the first and the last of a range. -/

namespace ModuleGraph.Text

/-- A table of which a part has been read; rows and numbers are collected in reverse. -/
structure TableReader where
  rows : List (List Nat)
  row : List Nat
  /-- The number whose digits are being read. -/
  number : Option Nat

namespace TableReader

/-- Ends the number that is being read. -/
def endNumber (s : TableReader) : TableReader :=
  match s.number with
  | some n => { s with row := n :: s.row, number := none }
  | none => s

/-- Ends the row that is being read. -/
def endRow (s : TableReader) : TableReader :=
  let s := s.endNumber
  if s.row.isEmpty then s else { s with rows := s.row.reverse :: s.rows, row := [] }

/-- Takes the next character. -/
def step (s : TableReader) (c : Char) : TableReader :=
  match hexDigit? c with
  | some d => { s with number := some (16 * s.number.getD 0 + d) }
  | none => if c = '-' then s.endNumber else s.endRow

end TableReader

/-- The rows of a table. -/
def tableRows (text : String) : List (List Nat) :=
  (text.foldl TableReader.step ⟨[], [], none⟩).endRow.rows.reverse

/-- The ranges of a table of ranges. -/
def tableRanges (text : String) : List (Nat × Nat) :=
  (tableRows text).filterMap fun row =>
    match row with
    | [single] => some (single, single)
    | [first, last] => some (first, last)
    | _ => none

/-- Whether `c` lies in one of the ranges. -/
def inRanges (ranges : List (Nat × Nat)) (c : Char) : Bool :=
  ranges.any fun r => r.1 ≤ c.toNat && c.toNat ≤ r.2

end ModuleGraph.Text
