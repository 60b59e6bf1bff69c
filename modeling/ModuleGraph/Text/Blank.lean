/-! # Blank characters and trimming

A character is blank when it is white space in Unicode's sense, which is wider than ASCII white
space: it has the no-break space, the spaces of fixed width and the line and paragraph
separators. -/

namespace ModuleGraph.Text

/-- White space in the sense of Unicode. -/
def isBlank (c : Char) : Bool :=
  let n := c.toNat
  (0x09 ≤ n && n ≤ 0x0D) || n == 0x20 || n == 0x85 || n == 0xA0 || n == 0x1680 ||
    (0x2000 ≤ n && n ≤ 0x200A) || n == 0x2028 || n == 0x2029 || n == 0x202F || n == 0x205F ||
    n == 0x3000

/-- Drops the characters that satisfy `p` at the end. -/
def dropEndWhile (p : Char → Bool) (cs : List Char) : List Char :=
  (cs.reverse.dropWhile p).reverse

/-- Drops the characters that satisfy `p` at both ends. -/
def trimWhile (p : Char → Bool) (cs : List Char) : List Char := dropEndWhile p (cs.dropWhile p)

/-- Drops blanks at both ends. -/
def trim (s : String) : String := String.ofList (trimWhile isBlank s.toList)

end ModuleGraph.Text
