import ModuleGraph.Text.Hexadecimal

/-! # Percent-encoding

A character in a URL is written as it is, or as the bytes of its UTF-8 form, each as `%` and two
digits.  Which characters are written as bytes depends on the part of the URL; characters outside
ASCII, controls and the delete character always are.  Encoded text is left as it is: `%` itself is
never encoded. -/

namespace ModuleGraph.Url

/-- A digit of base 16 as a capital. -/
def hexCapital (n : Nat) : Char := if n < 10 then Char.ofNat (48 + n) else Char.ofNat (55 + n)

/-- One byte, percent-encoded. -/
def percentByte (b : UInt8) : List Char :=
  ['%', hexCapital (b.toNat / 16), hexCapital (b.toNat % 16)]

/-- Whether a character is encoded in every part: all but printable ASCII. -/
def isControlOrWide (c : Char) : Bool := c.toNat < 0x20 || 0x7E < c.toNat

/-- A set of printable characters to encode besides. -/
abbrev EncodeSet := List Char

def fragmentSet : EncodeSet := [' ', '\"', '<', '>', '`']

def querySet : EncodeSet := [' ', '\"', '#', '<', '>']

/-- In the query of a web URL, the apostrophe is encoded too. -/
def webQuerySet : EncodeSet := querySet ++ ['\'']

def pathSet : EncodeSet := fragmentSet ++ ['#', '?', '{', '}']

def userInfoSet : EncodeSet :=
  pathSet ++ ['/', ':', ';', '=', '@', '[', '\\', ']', '^', '|']

/-- The text with the characters of the set, and all controls and wide characters, as bytes. -/
def percentEncode (set : EncodeSet) (cs : List Char) : List Char :=
  cs.flatMap fun c =>
    if isControlOrWide c || set.contains c then (String.utf8EncodeChar c).flatMap percentByte
    else [c]

/-- The bytes of a text in which `%` and two digits stand for one byte. -/
def percentDecode : List Char → List UInt8
  | [] => []
  | [c] => String.utf8EncodeChar c
  | [c, d] => String.utf8EncodeChar c ++ String.utf8EncodeChar d
  | c :: d :: e :: rest =>
    match c == '%', Text.hexDigit? d, Text.hexDigit? e with
    | true, some high, some low => UInt8.ofNat (16 * high + low) :: percentDecode rest
    | _, _, _ => String.utf8EncodeChar c ++ percentDecode (d :: e :: rest)

end ModuleGraph.Url
