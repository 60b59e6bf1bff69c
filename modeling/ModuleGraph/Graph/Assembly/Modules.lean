import ModuleGraph.Graph.Assembly

/-! # Assembling modules

Every declared dependency that the traits of the package enable becomes an edge.  In tests and
macros, a prebuilt library takes the place of the edge to its product.  Requests for other names of
modules are noted for the product that they concern.  Test modules exist in root packages only. -/

namespace ModuleGraph.Assembly

/-- A request to call a module of a product by another name. -/
structure AliasRequest where
  product : ProductId
  module : String
  newName : String
  deriving DecidableEq

/-- What a module has, when some of its dependencies have been resolved. -/
structure Links where
  edges : List Edge
  prebuilts : List Prebuilt
  aliases : List AliasRequest

/-- The error for a module that the package does not have. -/
def unknownModule (m : Manifest) (decl : ModuleDecl) (name : String) : PackageError :=
  let others := (m.modules.filter fun d => d.name != decl.name).map (·.name)
  .unknownModule decl.name name (others.mergeSort fun x y => compare x y != .gt)

/-- What a declared dependency points at, if that is part of the graph. -/
def target? (a : Assembly) (package : Identity) (m : Manifest) (decl : ModuleDecl)
    (d : ModuleDependency) : Except PackageError (Option EdgeTarget) :=
  match d.target with
  | .module name =>
    if (m.module? name).isNone then .error (unknownModule m decl name)
    else .ok (some (.module ⟨package, name⟩))
  | .byName name =>
    if (m.module? name).isSome then .ok (some (.module ⟨package, name⟩))
    else (a.resolveProduct ⟨package, m, decl, name⟩ none).map (·.map .product)
  | .product name qualifier _ =>
    (a.resolveProduct ⟨package, m, decl, name⟩ qualifier).map (·.map .product)

/-- The requests for other names that a dependency on a product makes. -/
def aliasRequests (d : ModuleDependency) (target : EdgeTarget) : List AliasRequest :=
  match d.target, target with
  | .product _ _ aliases, .product product =>
    aliases.toList.map fun (module, newName) => ⟨product, module, newName⟩
  | _, _ => []

/-- The prebuilt library that a module of some kind uses in the place of a product. -/
def substitute? (a : Assembly) (kind : ModuleKind) (target : EdgeTarget) : Option Prebuilt :=
  match target with
  | .product product =>
    if kind == .macroModule || kind == .test then a.prebuilts.find? product.package product.name
    else none
  | .module _ => none

/-- Resolves one more dependency. -/
def link (a : Assembly) (package : Identity) (m : Manifest) (decl : ModuleDecl) (traits : Names)
    (l : Links) (d : ModuleDependency) : Except PackageError Links := do
  if !d.enabledBy traits then pure l
  else
    match ← a.target? package m decl d with
    | none => pure l
    | some target =>
      -- Other names are asked for even where a prebuilt library takes the place of the edge.
      let l := { l with aliases := l.aliases ++ aliasRequests d target }
      match a.substitute? decl.kind target with
      | some library =>
        pure { l with
          prebuilts :=
            if l.prebuilts.any library.same then l.prebuilts else l.prebuilts ++ [library] }
      | none => pure { l with edges := l.edges ++ [⟨target, d.conditions⟩] }

/-- All dependencies of a module. -/
def links (a : Assembly) (package : Identity) (m : Manifest) (decl : ModuleDecl) (traits : Names) :
    Except PackageError Links :=
  decl.dependencies.foldlM (a.link package m decl traits) ⟨[], [], []⟩

/-- The directory of a module. -/
def modulePath (m : Manifest) (decl : ModuleDecl) : Path :=
  match m.directory? with
  | some directory => directory.join decl.relativePath
  | none => decl.relativePath

/-- The artifact of a binary module; it is reported when there is none. -/
def artifactOf (a : Assembly) (package : Identity) (decl : ModuleDecl) :
    Logged PackageError (Option Artifact) :=
  if decl.kind != .binary then pure none
  else
    match a.artifacts.find? package decl.name with
    | some artifact => pure (some artifact)
    | none => do
      Logged.tell (.diagnostic
        ((Diagnostic.warning s!"binary target '{decl.name}' has no artifact").about package.name))
      pure none

/-- The warning about files that no rule knows. -/
def unhandledWarning (package : Identity) (files : List Path) : Diagnostic :=
  ((Diagnostic.warning
    s!"found {files.length} file(s) which are unhandled; explicitly declare them as resources or exclude from the target").about
      package.name).withContext (files.map (·.text))

/-- The files in the directory of a module; those that no rule knows are reported. -/
def sourcesAt (a : Assembly) (package : Identity) (path : Path) : Logged PackageError Sources :=
  if !a.files.isDirectory path then pure Sources.empty
  else
    match a.files.filesBelow? path with
    | none => do
      Logged.tell (.logLine s!"failed to list {path.text}")
      pure Sources.empty
    | some files => do
      let unhandled := Sources.unhandled a.options.fileRules files
      if !unhandled.isEmpty then
        Logged.tell (.diagnostic (unhandledWarning package unhandled))
      pure (Sources.classify a.options.fileRules files)

/-- A module, and the requests for other names that it makes. -/
def module (a : Assembly) (package : Identity) (m : Manifest) (decl : ModuleDecl) :
    Logged PackageError (Module × List AliasRequest) := do
  let l ← Logged.ofExcept (a.links package m decl (a.traits.of package))
  let artifact ← a.artifactOf package decl
  let path := modulePath m decl
  let sources ← a.sourcesAt package path
  pure
    ({ id := ⟨package, decl.name⟩
       kind := decl.kind
       path
       edges := l.edges
       platforms := a.platforms m (decl.kind == .test)
       sources
       artifact
       prebuilts := l.prebuilts }, l.aliases)

/-- Whether a declared module is part of the graph. -/
def hasModule (isRoot : Bool) (decl : ModuleDecl) : Bool := isRoot || decl.kind != .test

/-- A package whose modules have been assembled. -/
structure Staged where
  identity : Identity
  manifest : Manifest
  isRoot : Bool
  modules : List Module
  aliases : List AliasRequest

/-- Assembles the modules of a package. -/
def stage (a : Assembly) (entry : Identity × Manifest) : Logged PackageError Staged := do
  let (identity, manifest) := entry
  let isRoot := a.catalog.isRoot identity
  let modules ← Logged.mapList (a.module identity manifest)
    (manifest.modules.filter (hasModule isRoot))
  pure ⟨identity, manifest, isRoot, modules.map (·.1), modules.flatMap (·.2)⟩

/-- The packages of the graph with their manifests. -/
def entries (a : Assembly) : List (Identity × Manifest) :=
  a.discovery.order.filterMap fun id => (a.catalog.manifest? id).map (id, ·)

/-- Assembles the modules of all packages. -/
def stageAll (a : Assembly) : Logged PackageError (List Staged) := Logged.mapList a.stage a.entries

end ModuleGraph.Assembly
