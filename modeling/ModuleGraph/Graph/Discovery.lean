import ModuleGraph.Graph.Catalog
import ModuleGraph.Graph.Error
import ModuleGraph.Manifest.Requirements
import ModuleGraph.Loop

/-! # Discovering the packages of a graph

From the roots, and from extra dependencies beside them, declared dependencies are followed as far
as the traits and product filters require.  A package is visited when it is first met, and again
whenever more of its products turn out to be needed.  On the way, declarations must agree: an
identity has one location, unless it is a root, and so has a dependency name. -/

namespace ModuleGraph

/-- The first declaration of an identity. -/
structure Declaration where
  canonical : String
  location : String
  declaredBy : Option Identity
  deriving DecidableEq

/-- What discovery knows at some point. -/
structure Discovery where
  declarations : SortedMap Identity Declaration
  /-- Canonical and written location of each dependency name, by the name in small letters. -/
  names : SortedMap String (String × String)
  /-- The package that first led to a package. -/
  parents : SortedMap Identity Identity
  /-- The packages to visit, the next one first. -/
  queue : List Identity
  /-- The packages that were met and have a manifest, roots first. -/
  order : List Identity
  filters : SortedMap Identity ProductFilter
  /-- The packages with a manifest that a package depends on, in the order of meeting them. -/
  edges : SortedMap Identity (List Identity)
  /-- The packages without a manifest that a package depends on. -/
  unloaded : SortedMap Identity (List Identity)
  /-- Every package that is needed, roots excepted. -/
  required : List Reference
  /-- The packages of the extra dependencies. -/
  extra : List Identity

namespace Discovery

/-- Nothing known. -/
def empty : Discovery where
  declarations := KeyedSet.empty
  names := KeyedSet.empty
  parents := KeyedSet.empty
  queue := []
  order := []
  filters := KeyedSet.empty
  edges := KeyedSet.empty
  unloaded := KeyedSet.empty
  required := []
  extra := []

/-- The packages with a manifest that a package depends on. -/
def edgesOf (d : Discovery) (id : Identity) : List Identity := SortedMap.getD d.edges id []

/-- The packages without a manifest that a package depends on. -/
def unloadedOf (d : Discovery) (id : Identity) : List Identity := SortedMap.getD d.unloaded id []

/-- The products that are needed of a package. -/
def filterOf (d : Discovery) (id : Identity) : ProductFilter :=
  SortedMap.getD d.filters id .everything

/-- Adds an item at the end, unless it is there. -/
def addNew {α : Type} [DecidableEq α] (items : List α) (a : α) : List α :=
  if items.contains a then items else items ++ [a]

/-- Climbs from the package in front to the packages that led to it. -/
def climb (parents : SortedMap Identity Identity) : Nat → List Identity → List Identity
  | 0, chain => chain
  | _, [] => []
  | n + 1, current :: below =>
    match SortedMap.get? parents current with
    | none => current :: below
    | some parent =>
      -- No package stands in a chain twice.
      if (current :: below).contains parent then current :: below
      else climb parents n (parent :: current :: below)

/-- The packages that led to one, the first of them in front and the package itself at the end. -/
def chainTo (d : Discovery) (id : Identity) : List Identity :=
  climb d.parents (d.parents.size + 1) [id]

/-- The chain to a dependency of `parent`. -/
def chainThrough (d : Discovery) (parent id : Identity) : List String :=
  (d.chainTo parent ++ [id]).map (·.name)

/-- How the declaring package is called in an error. -/
def parentLabel : Option Identity → String
  | some id => id.name
  | none => "root"

/-- Both chains to a package that is declared twice, if packages declare it. -/
def conflictChains (d : Discovery) (first second : Option Identity) (id : Identity) :
    Option (List String × List String) :=
  match first, second with
  | some a, some b => some (d.chainThrough a id, d.chainThrough b id)
  | _, _ => none

/-- Fails if the identity has been declared at another place; roots may stand in for any place. -/
def checkIdentity (c : Catalog) (d : Discovery) (parent : Option Identity) (dep : Dependency)
    (id : Identity) : Except PackageError Unit :=
  match SortedMap.get? d.declarations id with
  | none => .ok ()
  | some first =>
    -- Mirrors have no part in this: the locations are those that were written down.
    if first.canonical != dep.origin.canonical && !c.isRoot id then
      .error (.identityConflict (parentLabel parent) dep.origin.location first.location id
        (d.conflictChains first.declaredBy parent id))
    else .ok ()

/-- Enters the name of a dependency; fails if it has been used for another place. -/
def enterName (d : Discovery) (parent : Option Identity) (dep : Dependency) :
    Except PackageError Discovery :=
  match dep.name with
  | none => .ok d
  | some name =>
    let key := Text.lowercase name
    match SortedMap.get? d.names key with
    | none =>
      .ok { d with names := SortedMap.put d.names key (dep.origin.canonical, dep.origin.location) }
    | some (canonical, location) =>
      if canonical != dep.origin.canonical then
        .error (.nameConflict (parentLabel parent) dep.origin.location location name)
      else .ok d

/-- Enters the declaration of a package that is no root. -/
def enterDeclaration (c : Catalog) (d : Discovery) (parent : Option Identity) (dep : Dependency)
    (id : Identity) : Discovery :=
  if c.isRoot id then d
  else
    { d with
      declarations :=
        -- The first declaration stays, and later ones are compared with it.
        if d.declarations.contains id then d.declarations
        else SortedMap.put d.declarations id
          ⟨dep.origin.canonical, dep.origin.location, parent⟩
      required :=
        if d.required.any (·.identity == id) then d.required
        else d.required ++ [⟨id, dep.origin⟩] }

/-- Enters the edge from a package to one that it depends on. -/
def enterEdge (c : Catalog) (d : Discovery) (parent : Option Identity) (id : Identity) :
    Discovery :=
  match parent with
  | none => d
  | some p =>
    if c.has id then { d with edges := SortedMap.update d.edges p [] (addNew · id) }
    else { d with unloaded := SortedMap.update d.unloaded p [] (addNew · id) }

/-- Adds to what is needed of a package, and has it visited if that is something new. -/
def need (c : Catalog) (d : Discovery) (parent : Option Identity) (id : Identity)
    (filter : ProductFilter) : Discovery :=
  if !c.has id then d
  else
    match SortedMap.get? d.filters id with
    | some old =>
      -- More products may need more dependencies, so the package is visited again.
      { d with
        filters := SortedMap.put d.filters id (old.union filter)
        queue := if old.growsBy filter then d.queue ++ [id] else d.queue }
    | none =>
      { d with
        filters := SortedMap.put d.filters id filter
        order := d.order ++ [id]
        -- The parent of a package is the one that led to it first.
        parents :=
          match parent with
          | some p => SortedMap.put d.parents id p
          | none => d.parents
        queue := d.queue ++ [id] }

/-- Takes note of one dependency, declared by `parent` or beside the roots. -/
def declare (c : Catalog) (mirrors : Mirrors) (parent : Option Identity) (d : Discovery)
    (entry : Dependency × ProductFilter) : Except PackageError Discovery := do
  let (dep, filter) := entry
  let id := mirrors.identify dep.origin
  d.checkIdentity c parent dep id
  let d ← d.enterName parent dep
  pure (((d.enterDeclaration c parent dep id).enterEdge c parent id).need c parent id filter)

/-- Enters a root. -/
def enterRoot (c : Catalog) (filter : ProductFilter) (d : Discovery) (id : Identity) : Discovery :=
  { d with
    declarations :=
      match c.manifest? id with
      | some m => SortedMap.put d.declarations id ⟨m.origin.canonical, m.origin.location, none⟩
      | none => d.declarations
    filters := SortedMap.put d.filters id filter
    order := d.order ++ [id]
    queue := d.queue ++ [id] }

/-- Enters a dependency that is declared beside the roots. -/
def enterExtra (c : Catalog) (mirrors : Mirrors) (d : Discovery) (dep : Dependency) :
    Except PackageError Discovery := do
  let d ← declare c mirrors none d (dep, .everything)
  pure { d with extra := addNew d.extra (mirrors.identify dep.origin) }

/-- Visits the next package: takes note of everything it requires. -/
def visitNext (c : Catalog) (mirrors : Mirrors) (traits : EnabledTraits) (d : Discovery) :
    Step Discovery (Except PackageError Discovery) :=
  match d.queue with
  | [] => .done (.ok d)
  | id :: queue =>
    let d := { d with queue }
    match c.manifest? id with
    | none => .next d
    | some m =>
      let required := m.requiredDependencies mirrors.identify (d.filterOf id) (traits.of id)
      match required.foldlM (declare c mirrors (some id)) d with
      | .error e => .done (.error e)
      | .ok d => .next d

/-- A bound on the visits: a package is visited once, and once more whenever its filter grows, by
names that manifests or the filter of the roots hold. -/
def visitBound (c : Catalog) (filter : ProductFilter) : Nat :=
  let names :=
    match filter with
    | .everything => 0
    | .only names => names.size
  (c.manifests.size + c.roots.length) * (c.referenceCount + names + 3) + 1

end Discovery

/-- The packages that roots and extra dependencies need. -/
def Catalog.discover (c : Catalog) (mirrors : Mirrors) (traits : EnabledTraits)
    (extra : List Dependency) (filter : ProductFilter) : Except PackageError Discovery := do
  let entered := c.roots.foldl (Discovery.enterRoot c filter) Discovery.empty
  let d ← extra.foldlM (Discovery.enterExtra c mirrors) entered
  (Loop.run (Discovery.visitNext c mirrors traits) (Discovery.visitBound c filter) d).getD (.ok d)

end ModuleGraph
