import ModuleGraph.Platform
import ModuleGraph.Version
import ModuleGraph.Trait

/-! # Manifests

A manifest describes one package: its modules and what they depend on, the products that others
may use, the packages it depends on and its traits.  Module dependencies are names; what they refer
to is decided when the graph is assembled. -/

namespace ModuleGraph

inductive ModuleKind where
  | library
  | executable
  | test
  | plugin
  | macroModule
  | systemLibrary
  | binary
  | snippet
  deriving DecidableEq

namespace ModuleKind

/-- All kinds. -/
def all : List ModuleKind :=
  [.library, .executable, .test, .plugin, .macroModule, .systemLibrary, .binary, .snippet]

def write : ModuleKind → String
  | .library => "library"
  | .executable => "executable"
  | .test => "test"
  | .plugin => "plugin"
  | .macroModule => "macro"
  | .systemLibrary => "system-library"
  | .binary => "binary"
  | .snippet => "snippet"

/-- The kind with a given name. -/
def parse? (name : String) : Option ModuleKind := all.find? fun k => k.write == name

/-- The complaint about a name that is no kind. -/
def unknownMessage (name : String) : String := "unknown module kind: " ++ name

/-- The directory in which modules of this kind are found by convention. -/
def directory : ModuleKind → String
  | .test => "Tests"
  | .plugin => "Plugins"
  | _ => "Sources"

end ModuleKind

inductive ProductKind where
  | library
  | staticLibrary
  | dynamicLibrary
  | executable
  | plugin
  | test
  | macroProduct
  | snippet
  deriving DecidableEq

namespace ProductKind

/-- All kinds. -/
def all : List ProductKind :=
  [.library, .staticLibrary, .dynamicLibrary, .executable, .plugin, .test, .macroProduct, .snippet]

def write : ProductKind → String
  | .library => "library"
  | .staticLibrary => "static-library"
  | .dynamicLibrary => "dynamic-library"
  | .executable => "executable"
  | .plugin => "plugin"
  | .test => "test"
  | .macroProduct => "macro"
  | .snippet => "snippet"

/-- The kind with a given name. -/
def parse? (name : String) : Option ProductKind := all.find? fun k => k.write == name

/-- The complaint about a name that is no kind. -/
def unknownMessage (name : String) : String := "unknown product kind: " ++ name

def isLibrary : ProductKind → Bool
  | .library => true
  | .staticLibrary => true
  | .dynamicLibrary => true
  | _ => false

end ProductKind

/-- What a module dependency refers to. -/
inductive DependencyTarget where
  /-- A module of the same package. -/
  | module (name : String)
  /-- A product, perhaps of a given package, with other names for some of its modules. -/
  | product (name : String) (package : Option String) (aliases : SortedMap String String)
  /-- A module of the same package if there is one of this name, else a product. -/
  | byName (name : String)
  deriving DecidableEq

/-- A dependency of a module, as declared. -/
structure ModuleDependency where
  target : DependencyTarget
  condition : Option DeclaredCondition
  deriving DecidableEq

namespace ModuleDependency

/-- The name of the module or product that is meant. -/
def name (d : ModuleDependency) : String :=
  match d.target with
  | .module name => name
  | .product name _ _ => name
  | .byName name => name

/-- Whether the dependency exists when the package has these traits. -/
def enabledBy (d : ModuleDependency) (traits : Names) : Bool :=
  d.condition.all (·.enabledBy traits)

/-- Whether the dependency has to be asked for by a trait. -/
def isTraitGuarded (d : ModuleDependency) : Bool := d.condition.any (·.isTraitGuarded)

/-- The conditions that the resolved dependency carries. -/
def conditions (d : ModuleDependency) : List Condition :=
  match d.condition with
  | some c => c.resolved
  | none => []

end ModuleDependency

/-- A module as declared. -/
structure ModuleDecl where
  name : String
  kind : ModuleKind
  path : Option Path
  dependencies : List ModuleDependency
  deriving DecidableEq

namespace ModuleDecl

/-- The declared path, or the conventional one. -/
def relativePath (m : ModuleDecl) : Path :=
  m.path.getD (Path.join ⟨m.kind.directory⟩ ⟨m.name⟩)

end ModuleDecl

/-- A product as declared. -/
structure ProductDecl where
  name : String
  kind : ProductKind
  modules : List String
  deriving DecidableEq

/-- A trait that a package asks of one it depends on. -/
structure RequestedTrait where
  name : String
  /-- Traits of the asking package, one of which has to be enabled. -/
  condition : Option Names
  deriving DecidableEq

namespace RequestedTrait

/-- Whether the request is made by a package with these traits. -/
def isMadeBy (t : RequestedTrait) (traits : Names) : Bool :=
  t.condition.all fun names => names.toList.any traits.contains

end RequestedTrait

/-- A dependency on a package, as declared. -/
structure Dependency where
  origin : Origin
  /-- A name to refer to the package by. -/
  name : Option String
  /-- The traits to enable; nothing asks for the defaults. -/
  traits : Option (List RequestedTrait)
  deriving DecidableEq

namespace Dependency

/-- The name by which product references may mean this package. -/
def referenceName (d : Dependency) : String :=
  d.name.getD (Location.lastName d.origin.location)

/-- Whether `package` in a product reference means this dependency, whose identity is `id`. -/
def isMeantBy (d : Dependency) (id : Identity) (package : String) : Bool :=
  Text.equalFold d.referenceName package || Text.equalFold id.name package

/-- The traits that are asked for by a package with these traits. -/
def requestedTraits (d : Dependency) (parentTraits : Names) : Option Names :=
  d.traits.map fun traits =>
    KeyedSet.ofList ((traits.filter (·.isMadeBy parentTraits)).map (·.name))

end Dependency

/-- A package description. -/
structure Manifest where
  displayName : String
  origin : Origin
  version : Option Version
  toolsVersion : Version
  /-- Where the package has been checked out, if that is not its origin. -/
  checkout : Option Path
  platforms : List PlatformRequirement
  modules : List ModuleDecl
  products : List ProductDecl
  dependencies : List Dependency
  traits : List Trait
  deriving DecidableEq

namespace Manifest

/-- From this version of the tools on, packages may depend on each other in a cycle. -/
def cycleTolerantTools : Version := .release 6 0 0

def isRoot (m : Manifest) : Bool := m.origin.isRoot

/-- The directory of the package, if it is on disk. -/
def directory? (m : Manifest) : Option Path := m.checkout.or m.origin.directory?

/-- The first module of a given name. -/
def module? (m : Manifest) (name : String) : Option ModuleDecl := m.modules.find? (·.name == name)

/-- The first product of a given name. -/
def product? (m : Manifest) (name : String) : Option ProductDecl :=
  m.products.find? (·.name == name)

/-- Whether the package allows dependency cycles that it is part of. -/
def toleratesCycles (m : Manifest) : Bool := m.toolsVersion.atLeast cycleTolerantTools

/-- The name of the package, with its version if it has one. -/
def write (m : Manifest) : String :=
  match m.version with
  | some version => s!"{m.displayName} v{version}"
  | none => m.displayName

instance : ToString Manifest := ⟨write⟩

end Manifest

end ModuleGraph
