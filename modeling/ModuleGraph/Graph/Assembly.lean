import ModuleGraph.Graph.Discovery
import ModuleGraph.Graph.Options
import ModuleGraph.Graph.Package
import ModuleGraph.FileTree
import ModuleGraph.Similarity
import ModuleGraph.Journal

/-! # What assembly works with

Assembly turns manifests into packages with modules and products.  This module holds what it is
given and how it decides which product a reference means.  A product is visible to others unless it
is a test product of a package that is no root.  A reference that names a package means the product
of that package; otherwise the packages that the package depends on are searched.  A product that
is not found is an error, unless it may come from a package that is not part of the graph. -/

namespace ModuleGraph

/-- What assembly is given. -/
structure Assembly where
  catalog : Catalog
  mirrors : Mirrors
  discovery : Discovery
  traits : EnabledTraits
  options : Options
  artifacts : Artifacts
  prebuilts : Prebuilts
  files : FileView
  similarity : Similarity

namespace Assembly

/-- A product reference in the module of a package. -/
structure Request where
  package : Identity
  manifest : Manifest
  module : ModuleDecl
  product : String

/-- A product of a package, if it is there and visible. -/
def productIn? (a : Assembly) (package : Identity) (name : String) : Option ProductId := do
  let m ← a.catalog.manifest? package
  let p ← m.product? name
  if p.kind == .test && !a.catalog.isRoot package then none else some ⟨package, name⟩

/-- The names of all visible products of the packages in the graph, each once. -/
def visibleNames (a : Assembly) : List String :=
  (a.discovery.order.flatMap fun package =>
    match a.catalog.manifest? package with
    | none => []
    | some m => (m.products.map (·.name)).filter fun n => (a.productIn? package n).isSome).eraseDups

/-- What may have been meant: a product of this very name in a package that has not been searched,
or else a product with a similar name. -/
def suggestion (a : Assembly) (name : String) (requester : Identity) (searched : Option Identity) :
    Option Suggestion :=
  -- The exact name is looked for elsewhere only; a similar one may be anywhere.
  let others := a.discovery.order.filter fun p => p != requester && some p != searched
  match others.find? fun p => (a.productIn? p name).isSome with
  | some p => some (.qualified name p.name)
  | none => (a.similarity name a.visibleNames).map .similar

/-- The error for a product that was not found. -/
def notFound (a : Assembly) (r : Request) (qualifier : Option String)
    (searched : Option Identity) : PackageError :=
  .productNotFound r.package.name r.module.name r.product qualifier
    (a.suggestion r.product r.package searched)

/-- The error for a product of the requesting package itself. -/
def ownProduct (r : Request) : PackageError :=
  .ownProduct r.package.name r.module.name r.product

/-- Whether a package that is not part of the graph could have the product: it has a manifest that
declares it; or it has none, and it was required or the module is not required itself. -/
def mayVend (a : Assembly) (r : Request) (package : Identity) : Bool :=
  match a.catalog.manifest? package with
  | some m => (m.product? r.product).isSome
  | none =>
    (a.discovery.unloadedOf r.package).contains package ||
      !(r.manifest.requiredModules (a.discovery.filterOf r.package) (a.traits.of r.package)).any
        fun d => d.name == r.module.name

/-- The package that a qualifier means among the declared dependencies. -/
def qualified? (a : Assembly) (m : Manifest) (qualifier : String) : Option Identity :=
  (m.dependencies.find? fun d => d.isMeantBy (a.mirrors.identify d.origin) qualifier).map
    fun d => a.mirrors.identify d.origin

/-- Whether a qualifier means the requesting package itself. -/
def meansItself (r : Request) (qualifier : String) : Bool :=
  Text.equalFold qualifier r.manifest.displayName || Text.equalFold qualifier r.package.name

/-- The product of the package that a reference names. -/
def resolveQualified (a : Assembly) (r : Request) (qualifier : String) :
    Except PackageError (Option ProductId) :=
  match a.qualified? r.manifest qualifier with
  | none =>
    if meansItself r qualifier && (r.manifest.product? r.product).isSome then
      .error (ownProduct r)
    else .error (a.notFound r (some qualifier) none)
  | some package =>
    if (a.discovery.edgesOf r.package).contains package then
      match a.productIn? package r.product with
      | some product => .ok (some product)
      | none => .error (a.notFound r (some qualifier) (some package))
    -- The package is declared but not loaded.
    else if a.mayVend r package then .ok none
    else .error (a.notFound r (some qualifier) (some package))

/-- The product that a reference without a package means. -/
def resolveUnqualified (a : Assembly) (r : Request) : Except PackageError (Option ProductId) :=
  let loaded := a.discovery.edgesOf r.package
  match loaded.filterMap fun package => a.productIn? package r.product with
  | [product] => .ok (some product)
  | [] =>
    if (r.manifest.product? r.product).isSome then .error (ownProduct r)
    else
      -- Declared packages that are not loaded could have the product.
      let absent := (r.manifest.dependencies.map fun d => a.mirrors.identify d.origin).filter
        fun package => !loaded.contains package
      if absent.any (a.mayVend r) then .ok none else .error (a.notFound r none none)
  | candidates =>
    .error (.ambiguousProduct r.product r.module.name
      ((candidates.map (·.package.name)).mergeSort fun x y => compare x y != .gt))

/-- The product that a reference means; nothing if it may come from a package that is not part of
the graph. -/
def resolveProduct (a : Assembly) (r : Request) (qualifier : Option String) :
    Except PackageError (Option ProductId) :=
  match qualifier with
  | some package => a.resolveQualified r package
  | none => a.resolveUnqualified r

/-- The declared platforms; for tests, raised by the overrides. -/
def raise (platforms : List PlatformRequirement) (entry : String × PlatformVersion) :
    List PlatformRequirement :=
  let (name, version) := entry
  match platforms.findIdx? fun p => Text.equalFold p.platform name with
  | none => platforms ++ [⟨name, version⟩]
  | some i =>
    -- The first requirement for the platform is the one that is raised.
    platforms.modify i fun p => if compare version p.version == .gt then { p with version } else p

/-- The platforms of a module or product. -/
def platforms (a : Assembly) (m : Manifest) (isTest : Bool) : List PlatformRequirement :=
  if isTest then a.options.platformOverrides.toList.foldl raise m.platforms else m.platforms

end Assembly

end ModuleGraph
