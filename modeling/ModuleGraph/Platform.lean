import ModuleGraph.Text.Blank
import ModuleGraph.Text.Split
import ModuleGraph.Text.Decimal

/-! # Platforms and their versions

A platform version is a row of numbers such as `10.15.4`.  Missing numbers at the end count as
zero, so `13` and `13.0.0` are the same version.  A requirement names the least version of a
platform that is supported. -/

namespace ModuleGraph

/-- A dotted platform version. -/
structure PlatformVersion where
  parts : List Nat
  deriving DecidableEq, Inhabited

namespace PlatformVersion

/-- Compares two rows of numbers, the shorter one filled up with zeros. -/
def comparePadded : List Nat → List Nat → Ordering
  | [], bs => if bs.all (· == 0) then .eq else .lt
  | a :: as, bs => (compare a (bs.headD 0)).then (comparePadded as bs.tail)

instance : Ord PlatformVersion := ⟨fun v w => comparePadded v.parts w.parts⟩

/-- Whether two versions count as the same. -/
def same (v w : PlatformVersion) : Bool := compare v w == .eq

/-- The greatest number that a part may be. -/
def maxPart : Nat := 4294967295

/-- A part: an optional plus sign and digits. -/
def part? (cs : List Char) : Option Nat :=
  let digits :=
    match cs with
    | '+' :: rest => rest
    | cs => cs
  (Text.numeral? digits).bind fun n => if n ≤ maxPart then some n else none

/-- The version that a text writes, blanks around it disregarded. -/
def parse? (s : String) : Option PlatformVersion :=
  ((Text.splitWhere (· == '.') (Text.trimWhile Text.isBlank s.toList)).mapM part?).map .mk

/-- The complaint about a text that writes no version. -/
def invalidMessage (s : String) : String := "invalid platform version: `" ++ s ++ "`"

/-- The version as text. -/
def write (v : PlatformVersion) : String := ".".intercalate (v.parts.map Text.decimal)

instance : ToString PlatformVersion := ⟨write⟩

end PlatformVersion

/-- The least supported version of a platform. -/
structure PlatformRequirement where
  platform : String
  version : PlatformVersion
  deriving DecidableEq, Inhabited

end ModuleGraph
