import ModuleGraph.Graph.Package
import ModuleGraph.Digraph
import ModuleGraph.KeyedSet

/-! # Modules and products as the nodes of graphs

A `Lookup` finds modules and products by their ids.  Two graphs are made from it: in the one, the
nodes are modules and products, a product leads to its members, and edges may be limited to an
environment; in the other, the nodes are modules alone, and an edge to a product leads to the
members of the product. -/

namespace ModuleGraph

/-- A module or a product. -/
inductive Node where
  | module (m : Module)
  | product (p : Product)
  deriving DecidableEq

/-- The id of a module or a product. -/
inductive NodeId where
  | module (id : ModuleId)
  | product (id : ProductId)
  deriving DecidableEq

namespace Node

def id : Node → NodeId
  | .module m => .module m.id
  | .product p => .product p.id

def module? : Node → Option Module
  | .module m => some m
  | .product _ => none

def product? : Node → Option Product
  | .module _ => none
  | .product p => some p

def write : Node → String
  | .module m => m.write
  | .product p => p.write

end Node

/-- Modules by id. -/
abbrev ModuleSet := KeyedSet Module.id

/-- Products by id. -/
abbrev ProductSet := KeyedSet Product.id

/-- Packages by identity. -/
abbrev PackageSet := KeyedSet Package.identity

namespace Package

/-- The modules and products of a package. -/
def nodes (p : Package) : List Node := p.modules.map .module ++ p.products.map .product

end Package

/-- Modules and products by id. -/
structure Lookup where
  modules : ModuleSet
  products : ProductSet

namespace Lookup

/-- All modules and products of a list of packages. -/
def ofPackages (packages : List Package) : Lookup where
  modules := KeyedSet.ofList (packages.flatMap (·.modules))
  products := KeyedSet.ofList (packages.flatMap (·.products))

/-- What an edge points at. -/
def target? (l : Lookup) (e : Edge) : Option Node :=
  match e.target with
  | .module id => (l.modules.find? id).map .module
  | .product id => (l.products.find? id).map .product

/-- The members of a product. -/
def members (l : Lookup) (p : Product) : List Module := p.modules.filterMap l.modules.find?

/-- The edges of a module; with an environment, those that are active in it. -/
def edgesIn (env : Option Environment) (m : Module) : List Edge :=
  match env with
  | none => m.edges
  | some env => m.edges.filter (·.activeIn env)

/-- What a module or product leads to. -/
def successors (l : Lookup) (env : Option Environment) : Node → List Node
  | .module m => (edgesIn env m).filterMap l.target?
  | .product p => (l.members p).map .module

/-- All modules and products. -/
def nodes (l : Lookup) : List Node :=
  l.modules.toList.map .module ++ l.products.toList.map .product

/-- The graph of modules and products.  The bound covers start nodes that have been replaced by
others with the same id. -/
def nodeGraph (l : Lookup) (env : Option Environment) (starts : List Node) :
    Digraph Node NodeId where
  key := Node.id
  successors := l.successors env
  nodes := starts ++ l.nodes

/-- The modules that an edge leads to, through a product if it points at one. -/
def modulesBehind (l : Lookup) (e : Edge) : List Module :=
  match e.target with
  | .module id => (l.modules.find? id).toList
  | .product id =>
    match l.products.find? id with
    | some p => l.members p
    | none => []

/-- The graph of modules alone. -/
def moduleGraph (l : Lookup) : Digraph Module ModuleId where
  key := Module.id
  successors := fun m => m.edges.flatMap l.modulesBehind
  nodes := l.modules.toList

end Lookup

end ModuleGraph
