import ModuleGraph.Manifest
import ModuleGraph.ProductFilter
import ModuleGraph.Loop

/-! # What a manifest requires

For a filter on the products of a package: the modules that have to be built, and the packages
that are needed for them, each with the products that are used from it.  Product references are
matched to declared dependencies by package name alone, without looking into other packages.
Which packages the dependencies lead to is up to the caller, who says how to `identify` an
origin. -/

namespace ModuleGraph.Manifest

/-- Module names that are still to be looked at, the next one first; the names that have been; and
the modules found, in reverse. -/
structure ModuleClosure where
  pending : List String
  seen : List String
  found : List ModuleDecl

/-- The names in the package that an enabled dependency leads to. -/
def siblingName? (traits : Names) (d : ModuleDependency) : Option String :=
  if d.enabledBy traits then
    match d.target with
    | .module name => some name
    | .byName name => some name
    | .product _ _ _ => none
  else none

/-- Looks at the next name. -/
def requireNext (m : Manifest) (traits : Names) (s : ModuleClosure) :
    Step ModuleClosure (List ModuleDecl) :=
  match s.pending with
  | [] => .done s.found.reverse
  | name :: pending =>
    if s.seen.contains name then .next { s with pending }
    else
      match m.module? name with
      -- By-name references may mean products; these are no modules of this package.
      | none => .next { s with pending, seen := name :: s.seen }
      | some decl =>
        .next
          { pending := (decl.dependencies.filterMap (siblingName? traits)).reverse ++ pending
            seen := name :: s.seen
            found := decl :: s.found }

/-- The members of the products that a set names, in order of declaration. -/
def membersOf (m : Manifest) (products : Names) : List String :=
  (m.products.filter fun p => products.contains p.name).flatMap (·.modules)

/-- Every declared module is found once, and every name it leads to is looked at once. -/
def closureBound (m : Manifest) (start : List String) : Nat :=
  start.length + (m.modules.flatMap (·.dependencies)).length + 1

/-- The modules that the products of the filter are built from. -/
def requiredModules (m : Manifest) (filter : ProductFilter) (traits : Names) : List ModuleDecl :=
  match filter with
  | .everything => m.modules
  | .only products =>
    let start := (m.membersOf products).reverse
    (Loop.run (m.requireNext traits) (m.closureBound start) ⟨start, [], []⟩).getD []

/-- The package name that a reference goes by: the qualifier, or the product's own name. -/
def referredPackage? (m : Manifest) (d : ModuleDependency) : Option String :=
  match d.target with
  | .product name package _ => some (package.getD name)
  | .byName name => if (m.module? name).isNone then some name else none
  | .module _ => none

/-- Whether a reference names a product without its package. -/
def isUnqualified (m : Manifest) (d : ModuleDependency) : Bool :=
  match d.target with
  | .product _ package _ => package.isNone
  | .byName name => (m.module? name).isNone
  | .module _ => false

/-- The position of the first declared dependency that a reference means. -/
def dependencyIndex? (m : Manifest) (identify : Origin → Identity) (d : ModuleDependency) :
    Option Nat := do
  let package ← m.referredPackage? d
  m.dependencies.findIdx? fun dep => dep.isMeantBy (identify dep.origin) package

/-- How the references that were looked at use the declared dependencies. -/
structure Usage where
  /-- Names used from the dependency at a position. -/
  used : SortedMap Nat Names
  /-- Positions that only disabled references mean. -/
  disabledOnly : SortedSet Nat
  /-- Names of unqualified references that mean no dependency. -/
  unmatched : Names

namespace Usage

/-- No references. -/
def none : Usage := ⟨KeyedSet.empty, KeyedSet.empty, KeyedSet.empty⟩

/-- Counts one reference. -/
def count (m : Manifest) (identify : Origin → Identity) (traits : Names) (u : Usage)
    (d : ModuleDependency) : Usage :=
  match d.enabledBy traits, m.dependencyIndex? identify d with
  | false, .some i =>
    -- An enabled reference outweighs a disabled one, whichever comes first.
    if u.used.contains i then u else { u with disabledOnly := u.disabledOnly.insert i }
  | false, .none => u
  | true, .some i =>
    { u with
      disabledOnly := u.disabledOnly.erase i
      used := SortedMap.update u.used i KeyedSet.empty (·.insert d.name) }
  | true, .none =>
    if m.isUnqualified d then { u with unmatched := u.unmatched.insert d.name } else u

/-- The names that may come from the dependency at a position. -/
def productsOf (u : Usage) (i : Nat) : Names :=
  (SortedMap.getD u.used i KeyedSet.empty).union u.unmatched

end Usage

/-- The usage by all dependencies of a list of modules. -/
def usageOf (m : Manifest) (identify : Origin → Identity) (traits : Names)
    (modules : List ModuleDecl) : Usage :=
  (modules.flatMap (·.dependencies)).foldl (Usage.count m identify traits) Usage.none

/-- What is required of the dependency at a position, if it is required. -/
def requirementAt? (filter : ProductFilter) (u : Usage) (i : Nat) : Option ProductFilter :=
  match filter with
  -- Names that mean no dependency play no part where everything is needed.
  | .everything => if u.disabledOnly.contains i then none else some .everything
  | .only _ =>
    let products := u.productsOf i
    if products.isEmpty then none else some (.only products)

/-- The required dependencies in order of declaration, each with the products used from it.  When
everything is needed, every dependency is required unless all references to it are disabled. -/
def requiredDependencies (m : Manifest) (identify : Origin → Identity)
    (filter : ProductFilter) (traits : Names) : List (Dependency × ProductFilter) :=
  let u := m.usageOf identify traits (m.requiredModules filter traits)
  m.dependencies.zipIdx.filterMap fun (dep, i) => (requirementAt? filter u i).map (dep, ·)

/-- The references of all modules. -/
def references (m : Manifest) : List ModuleDependency := m.modules.flatMap (·.dependencies)

/-- The dependencies that references mean, all of which have to be asked for by traits, and one of
which is asked for. -/
def guardedDependencies (m : Manifest) (identify : Origin → Identity) (traits : Names) :
    List Dependency :=
  m.dependencies.zipIdx.filterMap fun (dep, i) =>
    let meant := m.references.filter fun d => m.dependencyIndex? identify d == some i
    if !meant.isEmpty && meant.all (·.isTraitGuarded) && meant.any (·.enabledBy traits) then
      some dep
    else none

end ModuleGraph.Manifest
