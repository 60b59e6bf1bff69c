/-! # Decimal numerals

A numeral is one or more ASCII digits.  Leading zeros are read; printing writes none. -/

namespace ModuleGraph.Text

/-- Whether `c` is one of 0 to 9. -/
def isDigit (c : Char) : Bool := '0' ≤ c && c ≤ '9'

/-- The number that a row of digits stands for. -/
def digitsValue (cs : List Char) : Nat := cs.foldl (fun n c => 10 * n + (c.toNat - 48)) 0

/-- The number written by one or more digits, and by nothing else. -/
def numeral? (cs : List Char) : Option Nat :=
  if !cs.isEmpty && cs.all isDigit then some (digitsValue cs) else none

/-- The digits of a number, without leading zeros. -/
def decimal (n : Nat) : String := String.ofList (Nat.toDigits 10 n)

end ModuleGraph.Text
