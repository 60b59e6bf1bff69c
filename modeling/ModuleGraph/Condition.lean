import ModuleGraph.KeyedSet
import ModuleGraph.Text.Ascii

/-! # Conditions on dependencies

A manifest may tie a dependency to platforms, to a build configuration and to traits.  The trait
part decides whether the dependency exists at all; the other parts are carried to the resolved
dependency and asked for each build environment. -/

namespace ModuleGraph

/-- A finite set of names. -/
abbrev Names := SortedSet String

inductive Configuration where
  | debug
  | release
  deriving DecidableEq, Inhabited

namespace Configuration

def write : Configuration → String
  | .debug => "debug"
  | .release => "release"

def parse? : String → Option Configuration
  | "debug" => some .debug
  | "release" => some .release
  | _ => none

end Configuration

/-- What a build is for; without a configuration it stands for both. -/
structure Environment where
  platform : String
  configuration : Option Configuration
  deriving DecidableEq

/-- A condition as a manifest declares it. -/
structure DeclaredCondition where
  platforms : Option (List String)
  configuration : Option Configuration
  traits : Option Names
  deriving DecidableEq, Inhabited

/-- A condition on a resolved dependency. -/
inductive Condition where
  | platforms (names : List String)
  | configuration (c : Configuration)
  /-- Decided when the dependency was resolved, and kept for inspection. -/
  | traits (names : Names)
  deriving DecidableEq

namespace Condition

/-- Whether the condition holds in an environment. -/
def holdsIn (env : Environment) : Condition → Bool
  | .platforms names => names.any fun name => Text.equalFold name env.platform
  | .configuration c => env.configuration.all (· == c)
  | .traits _ => true

end Condition

namespace DeclaredCondition

/-- Whether the trait part holds: it is absent, or one of its traits is enabled. -/
def enabledBy (c : DeclaredCondition) (enabled : Names) : Bool :=
  match c.traits with
  | some traits => traits.toList.any enabled.contains
  | none => true

/-- Whether there is a trait part that names a trait. -/
def isTraitGuarded (c : DeclaredCondition) : Bool := c.traits.any fun traits => !traits.isEmpty

/-- The conditions that the resolved dependency carries. -/
def resolved (c : DeclaredCondition) : List Condition :=
  (c.platforms.map Condition.platforms).toList ++
    (c.configuration.map Condition.configuration).toList ++
    (c.traits.map Condition.traits).toList

end DeclaredCondition

end ModuleGraph
