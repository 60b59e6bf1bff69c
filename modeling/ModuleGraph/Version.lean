import ModuleGraph.Text.Split
import ModuleGraph.Text.Decimal

/-! # Semantic versions

A version is three numbers, an optional pre-release and optional build metadata.  Versions are
ordered by the numbers, then by the pre-release, whose absence is greatest, then by the build
metadata, whose absence is least. -/

namespace ModuleGraph

/-- A semantic version; an absent pre-release or build is the empty text. -/
structure Version where
  major : Nat
  minor : Nat
  patch : Nat
  pre : String
  build : String
  deriving DecidableEq, Inhabited

namespace Version

/-- A release without build metadata. -/
def release (major minor patch : Nat) : Version := ⟨major, minor, patch, "", ""⟩

/-- The pieces between the dots of a pre-release or of build metadata. -/
def identifiers (s : String) : List (List Char) := Text.splitWhere (· == '.') s.toList

/-- The digits without the zeros in front. -/
def significant (cs : List Char) : List Char := cs.dropWhile (· == '0')

/-- Numbers by value, other identifiers by their characters; a number comes before any other. -/
def compareIdentifier (a b : List Char) : Ordering :=
  match a.all Text.isDigit, b.all Text.isDigit with
  | true, true =>
    (compare (significant a).length (significant b).length).then
      (compare (significant a) (significant b))
  | true, false => .lt
  | false, true => .gt
  | false, false => compare a b

/-- Identifiers of build metadata: of two numbers of one value the longer is greater. -/
def compareBuildIdentifier (a b : List Char) : Ordering :=
  (compareIdentifier a b).then
    (if a.all Text.isDigit then compare a.length b.length else .eq)

/-- Identifiers from left to right; where one list ends, it is the lesser. -/
def compareIdentifiers (cmp : List Char → List Char → Ordering) :
    List (List Char) → List (List Char) → Ordering
  | [], [] => .eq
  | [], _ :: _ => .lt
  | _ :: _, [] => .gt
  | a :: as, b :: bs => (cmp a b).then (compareIdentifiers cmp as bs)

/-- Pre-releases come before the release. -/
def comparePre (a b : String) : Ordering :=
  match a.isEmpty, b.isEmpty with
  | true, true => .eq
  | true, false => .gt
  | false, true => .lt
  | false, false => compareIdentifiers compareIdentifier (identifiers a) (identifiers b)

def compareBuild (a b : String) : Ordering :=
  compareIdentifiers compareBuildIdentifier (identifiers a) (identifiers b)

/-- The order of versions. -/
protected def compare (v w : Version) : Ordering :=
  (compare v.major w.major).then <| (compare v.minor w.minor).then <|
    (compare v.patch w.patch).then <| (comparePre v.pre w.pre).then <| compareBuild v.build w.build

instance : Ord Version := ⟨Version.compare⟩

/-- Whether `v` is `w` or comes after it. -/
def atLeast (v w : Version) : Bool := (compare v w).isGE

/-- One of the three numbers: no superfluous zero in front, and below 2^64. -/
def number? (cs : List Char) : Option Nat :=
  match cs with
  | '0' :: _ :: _ => none
  | cs => (Text.numeral? cs).bind fun n => if n < Nat.pow 2 64 then some n else none

/-- Whether a text is a row of identifiers of letters, digits and hyphens; numbers in a pre-release
have no superfluous zero in front. -/
def areIdentifiers (isPre : Bool) (cs : List Char) : Bool :=
  (Text.splitWhere (· == '.') cs).all fun piece =>
    !piece.isEmpty && piece.all (fun c => c.isAlphanum || c == '-') &&
      !(isPre && piece.all Text.isDigit && piece.head? == some '0' && 1 < piece.length)

/-- An optional part after its sign. -/
def tail? (isPre : Bool) : Option (List Char) → Option String
  | none => some ""
  | some cs => if areIdentifiers isPre cs then some (String.ofList cs) else none

/-- The version that a text writes. -/
def parse? (s : String) : Option Version := do
  let cs := s.toList
  let front := cs.takeWhile (· != '+')
  let build ← tail? false (cs.dropWhile (· != '+')).tail?
  let core := front.takeWhile (· != '-')
  let pre ← tail? true (front.dropWhile (· != '-')).tail?
  match Text.splitWhere (· == '.') core with
  | [major, minor, patch] =>
    some ⟨← number? major, ← number? minor, ← number? patch, pre, build⟩
  | _ => none

/-- The version as text. -/
def write (v : Version) : String :=
  ".".intercalate [Text.decimal v.major, Text.decimal v.minor, Text.decimal v.patch] ++
    (if v.pre.isEmpty then "" else "-" ++ v.pre) ++
    (if v.build.isEmpty then "" else "+" ++ v.build)

instance : ToString Version := ⟨write⟩

end Version

end ModuleGraph
