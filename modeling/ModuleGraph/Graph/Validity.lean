import ModuleGraph.Graph.Assembly.Products
import ModuleGraph.Graph.Nodes
import ModuleGraph.Digraph.Sort
import ModuleGraph.Digraph.Cycle

/-! # When packages make a valid graph

Package dependencies may form a cycle only if every package on it allows that.  Then, in this
order: every root has a module or product; the modules do not depend on each other in a cycle; no
two packages have products of the same name, test products and products used under other names
excepted; plugins depend only on what they can use.  A valid graph may still have dependencies of
root packages that nothing uses; these are reported. -/

namespace ModuleGraph

namespace Discovery

/-- The graph of packages that depend on each other. -/
def packageGraph (d : Discovery) (inputs : List Identity) : Digraph Identity Identity where
  key := id
  successors := d.edgesOf
  nodes := inputs ++ d.edges.toList.flatMap (·.2)

/-- Fails for a cycle of packages, one of which does not allow it. -/
def checkCycles (c : Catalog) (d : Discovery) : Except GraphError Unit :=
  let inputs := c.roots ++ d.extra
  let g := d.packageGraph inputs
  -- The sort decides whether there is a cycle; only then one is looked for.
  match g.sort inputs with
  | .ok _ => .ok ()
  | .error _ =>
    match g.findCycle inputs with
    | none => .error .unexpectedCycle
    | some found =>
      -- Only the cycle that is met first is judged.
      if found.cycle.all fun id => (c.manifest? id).any (·.toleratesCycles) then .ok ()
      else
        let named := found.map c.displayName
        .error (.package (.packageCycle named.path named.cycle))

end Discovery

namespace Assembly.Assembled

/-- Every root has a module or a product. -/
def checkRoots (a : Assembled) : Except GraphError Unit :=
  match a.packages.find? fun p => p.isRoot && p.modules.isEmpty && p.products.isEmpty with
  | some p => .error (.package (.noModules p.identity.name))
  | none => .ok ()

/-- The modules do not depend on each other in a cycle. -/
def checkModules (a : Assembled) : Except GraphError Unit :=
  let l := Lookup.ofPackages a.packages
  let starts := l.modules.toList
  match l.moduleGraph.sort starts with
  | .ok _ => .ok ()
  | .error _ =>
    match l.moduleGraph.findCycle starts with
    | none => .error .unexpectedCycle
    | some found =>
      let named := found.map Module.name
      .error (.package (.moduleCycle named.path named.cycle))

/-- Whether the name of a product has to be its own. -/
def hasOwnName (a : Assembled) (p : Product) : Bool := p.kind != .test && !a.aliased.contains p.id

/-- The packages that have products whose names have to be their own, by name, once each. -/
def vendors (a : Assembled) : SortedMap String (List Reference) :=
  (a.packages.flatMap fun p => (p.products.filter a.hasOwnName).map fun q => (q.name, p)).foldl
    (fun (t : SortedMap String (List Reference)) (name, p) =>
      SortedMap.update t name [] fun refs =>
        if refs.any (·.identity == p.identity) then refs else refs ++ [p.reference])
    KeyedSet.empty

/-- No two packages have products of the same name. -/
def checkProducts (a : Assembled) : Except GraphError Unit :=
  match a.vendors.toList.find? fun (_, refs) => 1 < refs.length with
  | some (name, refs) => .error (.package (.duplicateProduct name refs))
  | none => .ok ()

/-- Whether a plugin can use a module of this kind. -/
def moduleFitsPlugin : ModuleKind → Bool
  | .library => true
  | .executable => true
  | .binary => true
  | .systemLibrary => true
  | _ => false

/-- Whether a plugin can use a product of this kind. -/
def productFitsPlugin (kind : ProductKind) : Bool :=
  kind.isLibrary || kind == .executable || kind == .plugin

/-- The error for an edge of a plugin, if the plugin cannot use what it points at. -/
def pluginError? (l : Lookup) (plugin : Module) (e : Edge) : Option PackageError :=
  match l.target? e with
  | some (.module m) =>
    if moduleFitsPlugin m.kind then none
    else some (.pluginDependency plugin.name m.name m.kind.write none)
  | some (.product p) =>
    if productFitsPlugin p.kind then none
    else some (.pluginDependency plugin.name p.name p.kind.write (some p.id.package.name))
  | none => none

/-- Plugins depend only on what they can use. -/
def checkPlugins (a : Assembled) : Except GraphError Unit :=
  let l := Lookup.ofPackages a.packages
  let plugins := (a.packages.flatMap (·.modules)).filter fun m => m.kind == .plugin
  match plugins.findSome? fun m => m.edges.findSome? (pluginError? l m) with
  | some e => .error (.package e)
  | none => .ok ()

/-- Everything that makes packages a valid graph, in this order. -/
def check (a : Assembled) : Except GraphError Unit := do
  a.checkRoots
  a.checkModules
  a.checkProducts
  a.checkPlugins

/-- Whether a package has products for which nobody needs an edge. -/
def vendsTools (p : Package) : Bool :=
  p.products.any fun q => q.kind == .executable || q.kind == .plugin

/-- Whether a module of `root` uses a product of a package. -/
def usesPackage (root : Package) (id : Identity) : Bool :=
  root.modules.any fun m =>
    (m.edges.filterMap (·.product?)).any (fun q => q.package == id) ||
      -- A library counts for the package that it names, wherever it was found.
      m.prebuilts.any fun library => library.identity == id

/-- The dependencies of a root package that nothing uses. -/
def unusedDependencies (a : Assembled) (root : Package) : List Identity :=
  root.dependencies.filter fun id =>
    match a.packages.find? (·.identity == id) with
    | none => false
    | some p => !vendsTools p && !usesPackage root id

/-- The warnings about dependencies that nothing uses. -/
def unusedWarnings (a : Assembled) : List Diagnostic :=
  (a.packages.filter (·.isRoot)).flatMap fun root =>
    (a.unusedDependencies root).map fun id =>
      (Diagnostic.warning s!"dependency '{id}' is not used by any target").about
        root.identity.name

end Assembly.Assembled

end ModuleGraph
