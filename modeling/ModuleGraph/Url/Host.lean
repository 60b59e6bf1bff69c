import ModuleGraph.Text.Split
import ModuleGraph.Text.Decimal
import ModuleGraph.Url.Percent
import ModuleGraph.Url.Domain

/-! # Hosts

The host of a web URL is a domain, an IPv4 address or, in brackets, an IPv6 address.  A domain is
written in ASCII and in small letters.  A domain whose last label is a number has to be an IPv4
address, of one to four numbers of base 10, 8 or 16.  The host of any other URL is kept as it is,
percent-encoded. -/

namespace ModuleGraph.Url

/-- Characters that no host may contain. -/
def isForbiddenHost (c : Char) : Bool :=
  ['\x00', '\t', '\n', '\r', ' ', '#', '/', ':', '<', '>', '?', '@', '[', '\\', ']', '^',
    '|'].contains c

/-- Characters that no domain may contain. -/
def isForbiddenDomain (c : Char) : Bool :=
  isForbiddenHost c || c.toNat < 0x20 || c == '%' || c.toNat == 0x7F

/-- The number that a row of digits of a base up to 16 writes. -/
def basedNumeral? (base : Nat) (cs : List Char) : Option Nat :=
  cs.foldlM (fun n c => do
    let d ← Text.hexDigit? c
    if d < base then some (base * n + d) else none) 0

/-- One number of an IPv4 address: base 16 after `0x`, base 8 after `0`, else base 10. -/
def ipv4Number? (cs : List Char) : Option Nat :=
  match cs with
  | [] => none
  | '0' :: x :: rest =>
    if x = 'x' ∨ x = 'X' then basedNumeral? 16 rest else basedNumeral? 8 (x :: rest)
  | cs => basedNumeral? 10 cs

/-- The labels of a domain, without the empty one after a final dot. -/
def domainLabels (cs : List Char) : List (List Char) :=
  let labels := Text.splitWhere (· == '.') cs
  if labels.getLast? = some [] then labels.dropLast else labels

/-- Whether the last label of a domain is a number. -/
def endsInNumber (cs : List Char) : Bool :=
  match (domainLabels cs).getLast? with
  | none => false
  | some label => (!label.isEmpty && label.all Text.isDigit) || (ipv4Number? label).isSome

/-- The address that the numbers of an IPv4 address make: all but the last are one byte each, the
last fills the bytes that are left. -/
def ipv4Value? (numbers : List Nat) : Option Nat :=
  match numbers.reverse with
  | [] => none
  | last :: before =>
    let front := before.reverse
    -- With fewer than four numbers, the last one has more than one byte to fill.
    if front.length ≤ 3 ∧ front.all (· < 256) ∧ last < Nat.pow 256 (4 - front.length) then
      some (front.zipIdx.foldl (fun n (part, i) => n + part * Nat.pow 256 (3 - i)) last)
    else none

/-- An IPv4 address as four numbers. -/
def writeIpv4 (n : Nat) : String :=
  ".".intercalate [Text.decimal (n / 256 / 256 / 256), Text.decimal (n / 256 / 256 % 256),
    Text.decimal (n / 256 % 256), Text.decimal (n % 256)]

/-- A domain that ends in a number, as an address. -/
def ipv4? (cs : List Char) : Option String := do
  let numbers ← (domainLabels cs).mapM ipv4Number?
  (ipv4Value? numbers).map writeIpv4

/-- A piece of an IPv6 address: up to four digits of base 16. -/
def ipv6Piece? (cs : List Char) : Option Nat :=
  if !cs.isEmpty && cs.length ≤ 4 then basedNumeral? 16 cs else none

/-- The two pieces that an IPv4 address at the end of an IPv6 address makes. -/
def ipv6Tail? (cs : List Char) : Option (List Nat) := do
  let parts ← (Text.splitWhere (· == '.') cs).mapM fun part =>
    if part.length ≤ 3 ∧ (part.length = 1 ∨ part.head? ≠ some '0') then Text.numeral? part
    else none
  match parts with
  | [a, b, c, d] =>
    if parts.all (· < 256) then some [256 * a + b, 256 * c + d] else none
  | _ => none

/-- The pieces of one side of an IPv6 address; only at its end an IPv4 address may stand. -/
def ipv6Pieces? (atEnd : Bool) (cs : List Char) : Option (List Nat) :=
  if cs.isEmpty then some []
  else
    let pieces := Text.splitWhere (· == ':') cs
    let last := pieces.getLastD []
    if atEnd && last.contains '.' then do
      let front ← pieces.dropLast.mapM ipv6Piece?
      let tail ← ipv6Tail? last
      pure (front ++ tail)
    else pieces.mapM ipv6Piece?

/-- Cuts at the first pair of colons. -/
def splitAtGap (before : List Char) : List Char → List Char × Option (List Char)
  | [] => (before.reverse, none)
  | [c] => ((c :: before).reverse, none)
  | c :: d :: rest =>
    if c = ':' ∧ d = ':' then (before.reverse, some rest) else splitAtGap (c :: before) (d :: rest)

/-- The eight pieces of an IPv6 address; a pair of colons stands for one or more zero pieces. -/
def ipv6? (cs : List Char) : Option (List Nat) :=
  match splitAtGap [] cs with
  | (all, none) => do
    let pieces ← ipv6Pieces? true all
    if pieces.length = 8 then some pieces else none
  | (left, some right) => do
    let front ← ipv6Pieces? false left
    let back ← ipv6Pieces? true right
    -- The gap has to stand for at least one piece.
    if front.length + back.length < 8 then
      some (front ++ List.replicate (8 - front.length - back.length) 0 ++ back)
    else none

/-- The length of the row of zeros that the list begins with. -/
def zeroRun (pieces : List Nat) : Nat := (pieces.takeWhile (· == 0)).length

/-- Start and length of the first longest row of two or more zeros. -/
def longestGap (pieces : List Nat) : Option (Nat × Nat) :=
  let runs := (List.range pieces.length).map fun i => (i, zeroRun (pieces.drop i))
  runs.foldl (fun best (i, n) =>
    match best with
    | none => if 2 ≤ n then some (i, n) else none
    | some (_, m) => if m < n then some (i, n) else best) none

/-- A piece in base 16. -/
def writePiece (n : Nat) : String := String.ofList (Nat.toDigits 16 n)

/-- An IPv6 address, its longest row of zeros left out. -/
def writeIpv6 (pieces : List Nat) : String :=
  let join (ps : List Nat) := ":".intercalate (ps.map writePiece)
  match longestGap pieces with
  | none => "[" ++ join pieces ++ "]"
  | some (i, n) => "[" ++ join (pieces.take i) ++ "::" ++ join (pieces.drop (i + n)) ++ "]"

/-- An address in brackets. -/
def bracketed? (cs : List Char) : Option String := do
  let inner ← Text.stripStart? ['['] cs
  let inner ← Text.stripEnd? [']'] inner
  (ipv6? inner).map writeIpv6

/-- The host of a web URL. -/
def webHost? (cs : List Char) : Option String :=
  if cs.head? = some '[' then bracketed? cs
  else do
    let decoded ← String.fromUTF8? ⟨(percentDecode cs).toArray⟩
    let domain ← Domain.toAscii? decoded.toList
    if domain.isEmpty || domain.any isForbiddenDomain then none
    else if endsInNumber domain then ipv4? domain
    else some (String.ofList domain)

/-- The host of a URL of another kind. -/
def plainHost? (cs : List Char) : Option String :=
  if cs.head? = some '[' then bracketed? cs
  else if cs.any isForbiddenHost then none
  else some (String.ofList (percentEncode [] cs))

end ModuleGraph.Url
