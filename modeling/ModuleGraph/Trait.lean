import ModuleGraph.Condition
import ModuleGraph.Origin

/-! # Traits

A trait is an optional feature of a package; enabling it may imply others.  The name `default`
stands for the traits that the package enables when nobody asks for anything else. -/

namespace ModuleGraph

/-- The name that stands for a package's defaults. -/
def defaultTrait : String := "default"

/-- A trait as declared. -/
structure Trait where
  name : String
  /-- The traits that this one implies. -/
  implies : Names
  description : Option String
  deriving DecidableEq

namespace Trait

/-- Whether this declares the defaults rather than a trait of its own. -/
def isDefault (t : Trait) : Bool := t.name == defaultTrait

end Trait

/-- How traits are chosen for the root packages. -/
inductive TraitSelection where
  /-- The defaults of each root. -/
  | defaults
  /-- These names, among which may be the one for the defaults. -/
  | explicit (names : Names)
  /-- Every declared trait. -/
  | all
  deriving DecidableEq, Inhabited

namespace TraitSelection

/-- The selection that a word names. -/
def ofWord? : String → Option TraitSelection
  | "default" => some .defaults
  | "all" => some .all
  | _ => none

/-- The complaint about a word that names no selection. -/
def invalidMessage (word : String) : String :=
  "invalid trait configuration `" ++ word ++ "`, expected `default`, `all` or a list"

end TraitSelection

/-- A request for traits that a package cannot meet. -/
inductive TraitError where
  /-- The package has traits, but not this one. -/
  | unknown (package : String) (name : String) (available : List String)
  /-- The package has no traits. -/
  | unsupported (package : String)
  deriving DecidableEq

namespace TraitError

def message : TraitError → String
  | .unknown package name available =>
    s!"Trait '{name}' is not declared by package '{package}'. The available traits declared by this package are: " ++
      ", ".intercalate available ++ "."
  | .unsupported package => s!"Package '{package}' does not have any available traits defined."

end TraitError

/-- The enabled traits of every package that was reached. -/
abbrev EnabledTraits := SortedMap Identity Names

namespace EnabledTraits

/-- The enabled traits of a package; none if it was not reached. -/
def of (e : EnabledTraits) (id : Identity) : Names := SortedMap.getD e id KeyedSet.empty

/-- Whether a package was reached and has the trait enabled. -/
def isEnabled (e : EnabledTraits) (id : Identity) (name : String) : Bool := (e.of id).contains name

/-- One line for each package. -/
def write (e : EnabledTraits) : String :=
  String.join (e.toList.map fun (id, names) =>
    s!"{id}: [" ++ ", ".intercalate names.toList ++ "]\n")

end EnabledTraits

end ModuleGraph
