import ModuleGraph.Manifest
import ModuleGraph.ProductFilter
import ModuleGraph.Artifact
import ModuleGraph.FileRules

/-! # Modules, products and packages of a graph

In a graph, dependencies no longer are names: they point at the module or product that is meant, by
the identity of its package and its name. -/

namespace ModuleGraph

/-- A module in a graph. -/
structure ModuleId where
  package : Identity
  name : String
  deriving DecidableEq

/-- A product in a graph. -/
structure ProductId where
  package : Identity
  name : String
  deriving DecidableEq

namespace ModuleId

instance : Ord ModuleId := ⟨compareLex (compareOn package) (compareOn name)⟩

instance : Std.TransOrd ModuleId :=
  inferInstanceAs (Std.TransCmp (compareLex (compareOn package) (compareOn name)))

instance : Std.LawfulEqOrd ModuleId where
  eq_of_compare {a b} h := by
    have h : compareLex (compareOn package) (compareOn name) a b = .eq := h
    rw [compareLex_eq_eq] at h
    have hp : a.package = b.package := Std.LawfulEqOrd.eq_of_compare h.1
    have hn : a.name = b.name := Std.LawfulEqOrd.eq_of_compare h.2
    cases a; cases b; simp_all

def write (id : ModuleId) : String := s!"{id.package}:{id.name}"

end ModuleId

namespace ProductId

instance : Ord ProductId := ⟨compareLex (compareOn package) (compareOn name)⟩

instance : Std.TransOrd ProductId :=
  inferInstanceAs (Std.TransCmp (compareLex (compareOn package) (compareOn name)))

instance : Std.LawfulEqOrd ProductId where
  eq_of_compare {a b} h := by
    have h : compareLex (compareOn package) (compareOn name) a b = .eq := h
    rw [compareLex_eq_eq] at h
    have hp : a.package = b.package := Std.LawfulEqOrd.eq_of_compare h.1
    have hn : a.name = b.name := Std.LawfulEqOrd.eq_of_compare h.2
    cases a; cases b; simp_all

def write (id : ProductId) : String := s!"{id.package}:{id.name}"

end ProductId

/-- What an edge of a module points at. -/
inductive EdgeTarget where
  | module (id : ModuleId)
  | product (id : ProductId)
  deriving DecidableEq

/-- A dependency of a module in a graph. -/
structure Edge where
  target : EdgeTarget
  conditions : List Condition
  deriving DecidableEq

namespace Edge

/-- Whether the edge is active in an environment. -/
def activeIn (env : Environment) (e : Edge) : Bool := e.conditions.all (·.holdsIn env)

/-- The module that the edge points at, if it points at one. -/
def module? (e : Edge) : Option ModuleId :=
  match e.target with
  | .module id => some id
  | .product _ => none

/-- The product that the edge points at, if it points at one. -/
def product? (e : Edge) : Option ProductId :=
  match e.target with
  | .product id => some id
  | .module _ => none

end Edge

/-- A module of a graph. -/
structure Module where
  id : ModuleId
  kind : ModuleKind
  path : Path
  edges : List Edge
  platforms : List PlatformRequirement
  sources : Sources
  artifact : Option Artifact
  prebuilts : List Prebuilt
  deriving DecidableEq

namespace Module

def name (m : Module) : String := m.id.name

def isTest (m : Module) : Bool := m.kind == .test

def write (m : Module) : String := s!"{m.id.write} ({m.kind.write})"

end Module

/-- A product of a graph. -/
structure Product where
  id : ProductId
  kind : ProductKind
  modules : List ModuleId
  /-- Other names for modules, as asked for by those who use the product. -/
  aliases : SortedMap String String
  platforms : List PlatformRequirement
  /-- Whether the product was added without being declared. -/
  synthesized : Bool
  deriving DecidableEq

namespace Product

def name (p : Product) : String := p.id.name

def isTest (p : Product) : Bool := p.kind == .test

def write (p : Product) : String := s!"{p.id.write} ({p.kind.write})"

end Product

/-- A package of a graph. -/
structure Package where
  identity : Identity
  manifest : Manifest
  isRoot : Bool
  modules : List Module
  products : List Product
  /-- The packages of the graph that this one depends on. -/
  dependencies : List Identity
  enabledTraits : Names
  filter : ProductFilter
  deriving DecidableEq

namespace Package

def displayName (p : Package) : String := p.manifest.displayName

/-- The first module of a given name. -/
def module? (p : Package) (name : String) : Option Module := p.modules.find? (·.name == name)

/-- The first product of a given name. -/
def product? (p : Package) (name : String) : Option Product := p.products.find? (·.name == name)

/-- A phrase for the package and its origin. -/
def describe (p : Package) : String := p.manifest.origin.describe p.identity

/-- The package and its origin. -/
def reference (p : Package) : Reference := ⟨p.identity, p.manifest.origin⟩

end Package

end ModuleGraph
