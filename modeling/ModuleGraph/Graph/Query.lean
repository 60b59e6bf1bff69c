import ModuleGraph.Graph

/-! # Questions about a graph

Modules and products are found by name, those of root packages first.  What a module depends on is
asked directly, or with everything behind it for one build environment.  Every executable of the
root packages is associated with the tests that depend on it or on something it is made from. -/

namespace ModuleGraph.Graph

def isRoot (g : Graph) (id : Identity) : Bool := g.rootPackages.contains id

/-- The package with an identity. -/
def package? (g : Graph) (id : Identity) : Option Package := g.packages.find? id

/-- The module with an id. -/
def module? (g : Graph) (id : ModuleId) : Option Module := g.allModules.find? id

/-- The product with an id. -/
def product? (g : Graph) (id : ProductId) : Option Product := g.allProducts.find? id

/-- The first item, but the first one of a root package if there is one. -/
def preferRoot {α : Type} (g : Graph) (package : α → Identity) (items : List α) : Option α :=
  (items.find? fun a => g.isRoot (package a)).or items.head?

/-- A module of a given name. -/
def findModule (g : Graph) (name : String) : Option Module :=
  g.preferRoot (·.id.package) (g.allModules.toList.filter fun m => m.name == name)

/-- A product of a given name. -/
def findProduct (g : Graph) (name : String) : Option Product :=
  g.preferRoot (·.id.package) (g.allProducts.toList.filter fun p => p.name == name)

/-- The package of a module of the graph. -/
def packageOfModule (g : Graph) (id : ModuleId) : Option Package :=
  if g.allModules.contains id then g.package? id.package else none

/-- The package of a product of the graph. -/
def packageOfProduct (g : Graph) (id : ProductId) : Option Package :=
  if g.allProducts.contains id then g.package? id.package else none

/-- Whether a module can be reached from the root packages along edges that are active in an
environment. -/
def isInRoots (g : Graph) (id : ModuleId) (env : Environment) : Except GraphError Bool := do
  let reached ← g.lookup.closure (some env) (g.rootPackages.toList.flatMap Package.nodes)
  pure (reached.any fun n => n.id == .module id)

/-- What a module depends on directly, in any environment. -/
def direct (g : Graph) (id : ModuleId) : List Node :=
  match g.module? id with
  | some m => g.lookup.successors none (.module m)
  | none => []

/-- Everything that a module depends on along edges that are active in an environment, each node
before what it leads to. -/
def recursive (g : Graph) (id : ModuleId) (env : Environment) : Except GraphError (List Node) :=
  match g.module? id with
  | some m => g.lookup.closure (some env) (g.lookup.successors (some env) (.module m))
  | none => .ok []

/-- The modules that a module names directly, plugins perhaps left out. -/
def moduleEdges (g : Graph) (withPlugins : Bool) (m : Module) : List Module :=
  (m.edges.filterMap fun e => e.module?.bind g.module?).filter fun d =>
    withPlugins || d.kind != .plugin

/-- The graph of modules and the modules they name, plugins left out. -/
def pluginFreeGraph (g : Graph) (starts : List Module) : Digraph Module ModuleId where
  key := Module.id
  successors := g.moduleEdges false
  nodes := starts ++ g.allModules.toList

/-- The modules of the root packages. -/
def rootModules (g : Graph) : List Module := g.rootPackages.toList.flatMap (·.modules)

/-- What the test modules of the root packages name directly. -/
def testSubjects (g : Graph) : SortedMap ModuleId (SortedSet ModuleId) :=
  KeyedSet.ofList ((g.rootModules.filter (·.isTest)).map fun m =>
    (m.id, KeyedSet.ofList ((g.moduleEdges false m).map (·.id))))

/-- An executable and everything it is made from; only the executable itself may name plugins. -/
def covered (g : Graph) (executable : Module) : Except GraphError (SortedSet ModuleId) := do
  -- Plugins are left out from the second step on.
  let starts := g.moduleEdges true executable
  let sorted := (g.pluginFreeGraph starts).sort starts
  let reached ← sorted.mapError fun _ => GraphError.unexpectedCycle
  pure ((KeyedSet.ofList (reached.map (·.id))).insert executable.id)

/-- The tests of an executable, ascending. -/
def testsOf (g : Graph) (executable : Module) : Except GraphError (List Module) := do
  let made ← g.covered executable
  let tests := g.rootModules.filter fun m =>
    match SortedMap.get? g.testSubjects m.id with
    | some subjects => !subjects.disjoint made
    | none => false
  pure (tests.mergeSort fun a b => compare a.id b.id != .gt)

/-- The tests of every executable of the root packages. -/
def testsByExecutable (g : Graph) : Except GraphError (SortedMap ModuleId (List Module)) := do
  let executables := g.rootModules.filter fun m => m.kind == .executable
  let entries ← executables.mapM fun m => do pure (m.id, ← g.testsOf m)
  pure (KeyedSet.ofList entries)

end ModuleGraph.Graph
