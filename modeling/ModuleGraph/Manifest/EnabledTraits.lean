import ModuleGraph.Manifest
import ModuleGraph.Loop

/-! # Which traits a request enables

A request is a set of names.  The name for the defaults stands for what the package declares as
its defaults, and every enabled trait enables what it implies.  A name that the package does not
declare, or the name for the defaults where it is implied, is an error. -/

namespace ModuleGraph.Manifest

/-- The declared traits, the defaults left out. -/
def ownTraits (m : Manifest) : List Trait := m.traits.filter fun t => !t.isDefault

/-- The first trait of a given name, the defaults among them. -/
def trait? (m : Manifest) (name : String) : Option Trait := m.traits.find? (·.name == name)

/-- The first trait of a given name; the defaults are no trait of their own. -/
def ownTrait? (m : Manifest) (name : String) : Option Trait :=
  (m.trait? name).filter fun t => !t.isDefault

/-- What a selection for the root packages asks of this one. -/
def selectedTraits (m : Manifest) : TraitSelection → Names
  | .defaults => KeyedSet.ofList [defaultTrait]
  | .explicit names => names
  | .all => KeyedSet.ofList (m.ownTraits.map (·.name))

/-- The names that a requested name stands for. -/
def expandDefault (m : Manifest) (name : String) : List String :=
  if name = defaultTrait then
    match m.trait? defaultTrait with
    | some t => t.implies.toList
    | none => []
  else [name]

/-- The names that a request starts from. -/
def startTraits (m : Manifest) (requested : Names) : List String :=
  requested.toList.flatMap m.expandDefault

/-- Names that are still to be enabled, the next one first, and the names that are enabled. -/
structure TraitClosure where
  pending : List String
  enabled : Names

/-- Enables the next name, if it is not enabled yet, and puts what it implies in front. -/
def enableNext (m : Manifest) (s : TraitClosure) :
    Step TraitClosure (Except TraitError Names) :=
  match s.pending with
  | [] => .done (.ok s.enabled)
  | name :: pending =>
    match m.ownTrait? name with
    | none =>
      .done (.error (.unknown m.displayName name (m.ownTraits.map (·.name))))
    | some t =>
      if s.enabled.contains name then .next { s with pending }
      else .next ⟨t.implies.toList.reverse ++ pending, s.enabled.insert name⟩

/-- Every declared trait is enabled once, and every name that it implies is looked at once. -/
def closureSteps (m : Manifest) (start : List String) : Nat :=
  start.length + (m.traits.flatMap (·.implies.toList)).length + 1

/-- The traits that a request enables. -/
def enabledTraits (m : Manifest) (requested : Names) : Except TraitError Names :=
  if m.ownTraits.isEmpty then
    if requested.toList.all (· == defaultTrait) then .ok KeyedSet.empty
    else .error (.unsupported m.displayName)
  else
    let start := (m.startTraits requested).reverse
    (Loop.run m.enableNext (m.closureSteps start) ⟨start, KeyedSet.empty⟩).getD
      (.ok KeyedSet.empty)

end ModuleGraph.Manifest
