import ModuleGraph.Trait
import ModuleGraph.Diagnostic

/-! # What can be wrong with a package graph

Each error names the packages, modules or products that cause it.  `message` is its wording, and
`diagnostic` adds context and advice. -/

namespace ModuleGraph

/-- What may have been meant by a product that was not found. -/
inductive Suggestion where
  /-- Another package has a product of exactly this name. -/
  | qualified (product package : String)
  /-- There is a product with a similar name. -/
  | similar (name : String)
  deriving DecidableEq

/-- A problem with the packages. -/
inductive PackageError where
  /-- A root package has neither modules nor products. -/
  | noModules (package : String)
  /-- Modules depend on each other in a cycle, which is reached along a path. -/
  | moduleCycle (path cycle : List String)
  /-- Packages depend on each other in a cycle, and one of them does not allow it. -/
  | packageCycle (path cycle : List String)
  /-- No package in question has the product. -/
  | productNotFound (package module product : String) (searched : Option String)
      (suggestion : Option Suggestion)
  /-- A module asks for a product of its own package. -/
  | ownProduct (package module product : String)
  /-- Several packages have a product of this name. -/
  | duplicateProduct (product : String) (packages : List Reference)
  /-- A module of a product is given several names. -/
  | multipleAliases (module product package : String) (aliases : List String)
  /-- An identity is declared at two locations; the chains lead to the two declarations. -/
  | identityConflict (package location otherLocation : String) (identity : Identity)
      (chains : Option (List String × List String))
  /-- A dependency name is declared for two locations. -/
  | nameConflict (package location otherLocation name : String)
  /-- Several packages have the product, and the reference names none. -/
  | ambiguousProduct (product module : String) (candidates : List String)
  /-- A plugin depends on something that plugins cannot use. -/
  | pluginDependency (plugin dependency kind : String) (package : Option String)
  /-- A module asks for a module that its package does not have. -/
  | unknownModule (module dependency : String) (valid : List String)
  /-- A package is asked for traits that it cannot enable. -/
  | traits (e : TraitError)
  deriving DecidableEq

/-- A reason why no graph could be made. -/
inductive GraphError where
  /-- A walk met a cycle that validation should have found. -/
  | unexpectedCycle
  | package (e : PackageError)
  deriving DecidableEq

namespace PackageError

/-- Names in quotation marks, with commas between. -/
def quoted (names : List String) : String := ", ".intercalate (names.map fun n => s!"'{n}'")

/-- Names with arrows between. -/
def chain (names : List String) : String := " -> ".intercalate names

/-- A path into a cycle, closed by the first node of the cycle. -/
def closedWalk (path cycle : List String) : String :=
  chain (path ++ cycle ++ cycle.head?.toList)

/-- A question that proposes a suggestion. -/
def question : Option Suggestion → String
  | none => ""
  | some (.qualified product package) =>
    s!" Did you mean '.product(name: \"{product}\", package: \"{package}\")'?"
  | some (.similar name) => s!" Did you mean '{name}'?"

/-- The wording of an error. -/
def message : PackageError → String
  | .noModules package => s!"package '{package}' contains no products"
  | .moduleCycle path cycle =>
    "cyclic dependency declaration found: " ++ closedWalk path cycle
  | .packageCycle path cycle =>
    "cyclic dependency between packages " ++ closedWalk path cycle ++
      " requires tools-version 6.0 or later"
  | .productNotFound package module product searched suggestion =>
    s!"product '{product}' required by package '{package}' target '{module}' not found" ++
      (match searched with
        | some other => s!" in package '{other}'"
        | none => "") ++
      "." ++ question suggestion
  | .ownProduct package module product =>
    s!"product '{product}' is declared in the same package '{package}' and can't be used as a dependency for target '{module}'."
  | .duplicateProduct product packages =>
    "multiple packages (" ++
      ", ".intercalate (packages.map fun r => r.origin.describe r.identity) ++
      s!") declare products with a conflicting name: '{product}'; product names need to be unique across the package graph"
  | .multipleAliases module product package aliases =>
    "multiple aliases: [" ++ quoted aliases ++
      s!"] found for target '{module}' in product '{product}' from package '{package}'"
  | .identityConflict package location otherLocation identity chains =>
    s!"'{package}' dependency on '{location}' conflicts with dependency on '{otherLocation}' which has the same identity '{identity}'" ++
      match chains with
      | some (first, second) =>
        ". The dependencies are introduced through the following chains: (A) " ++ chain first ++
          " (B) " ++ chain second
      | none => ""
  | .nameConflict package location otherLocation name =>
    s!"'{package}' dependency on '{location}' conflicts with dependency on '{otherLocation}' which has the same explicit name '{name}'"
  | .ambiguousProduct product module _ =>
    s!"dependency '{product}' in target '{module}' requires explicit declaration; reference the package in the target dependency with '.product(name: \"{product}\", package: <package>)'"
  | .pluginDependency plugin dependency kind package =>
    s!"plugin '{plugin}' cannot depend on '{dependency}' of type '{kind}'" ++
      (match package with
        | some name => s!" from package '{name}'"
        | none => "") ++
      "; this dependency is unsupported"
  | .unknownModule module dependency valid =>
    s!"unknown dependency '{dependency}' in target '{module}'; valid dependencies are: " ++
      quoted valid
  | .traits e => e.message

/-- The package that a request for traits was made of. -/
def traitPackage : TraitError → String
  | .unknown package _ _ => package
  | .unsupported package => package

/-- The error for people, with advice. -/
def diagnostic (e : PackageError) : Diagnostic :=
  let d := Diagnostic.error e.message
  match e with
  | .moduleCycle _ _ =>
    d.suggesting ["Break the cycle by removing or restructuring target dependencies"]
  | .packageCycle _ _ =>
    d.suggesting ["Raise the tools version of every package on the cycle to 6.0",
      "Break the cycle by removing or restructuring dependencies"]
  | .duplicateProduct _ packages =>
    (d.withContext (packages.map fun r => s!"declared by {r}")).suggesting
      ["Rename one of the products, or use module aliases"]
  | .productNotFound package _ _ _ _ =>
    (d.about package).suggesting ["Check that the product name is spelled correctly"]
  | .ownProduct package _ _ =>
    (d.about package).suggesting ["Check that the product name is spelled correctly"]
  | .ambiguousProduct product _ candidates =>
    d.suggesting (candidates.map fun c =>
      s!".product(name: \"{product}\", package: \"{c}\")")
  | .identityConflict _ _ _ _ _ =>
    d.suggesting ["Point every dependency on this package at the same location"]
  | .nameConflict _ _ _ _ =>
    d.suggesting ["Point every dependency on this package at the same location"]
  | .traits e => d.about (traitPackage e)
  | .unknownModule _ _ valid =>
    if valid.isEmpty then d else d.suggesting ["Use one of: " ++ ", ".intercalate valid]
  | .noModules _ => d
  | .multipleAliases _ _ _ _ => d
  | .pluginDependency _ _ _ _ => d

end PackageError

namespace GraphError

def message : GraphError → String
  | .unexpectedCycle => "unexpected cycle in graph"
  | .package e => e.message

/-- The error for people, with advice. -/
def diagnostic : GraphError → Diagnostic
  | .unexpectedCycle => .error "unexpected cycle in graph"
  | .package e => e.diagnostic

/-- The code under which an error is filed. -/
def code : GraphError → String
  | .unexpectedCycle => "harbour::graph::cycle"
  | .package _ => "harbour::graph::package"

end GraphError

end ModuleGraph
