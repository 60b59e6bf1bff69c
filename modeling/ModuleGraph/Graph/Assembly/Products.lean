import ModuleGraph.Graph.Assembly.Modules

/-! # Assembling products and packages

Declared products become products of the graph; members that are no modules of the package are left
out.  Test products exist in root packages only, which also get test products, and perhaps a product
for interactive use, that are not declared.  All requests for another name of a module of a product
must agree. -/

namespace ModuleGraph.Assembly

/-- The requested names of modules, by product and module. -/
abbrev AliasTable := SortedMap ProductId (SortedMap String Names)

namespace AliasTable

/-- Adds a request. -/
def add (t : AliasTable) (r : AliasRequest) : AliasTable :=
  let ofProduct : SortedMap String Names := SortedMap.getD t r.product KeyedSet.empty
  let changed := SortedMap.update ofProduct r.module KeyedSet.empty (·.insert r.newName)
  SortedMap.put t r.product changed

/-- All requests of a list. -/
def ofList (requests : List AliasRequest) : AliasTable := requests.foldl add KeyedSet.empty

/-- The one name that is requested for a module; several are an error. -/
def nameFor (product : ProductId) (entry : String × Names) :
    Except PackageError (Option (String × String)) :=
  match entry.2.toList with
  | [] => .ok none
  | [name] => .ok (some (entry.1, name))
  | names => .error (.multipleAliases entry.1 product.name product.package.name names)

/-- The other names for the modules of a product. -/
def aliasesFor (t : AliasTable) (product : ProductId) :
    Except PackageError (SortedMap String String) := do
  let requested : SortedMap String Names := SortedMap.getD t product KeyedSet.empty
  let names ← requested.toList.mapM (nameFor product)
  pure (KeyedSet.ofList (names.reduceOption))

end AliasTable

/-- A member of a declared product; a name that is no module of the package is reported. -/
def memberOf (identity : Identity) (modules : List Module) (product name : String) :
    Logged PackageError (Option ModuleId) :=
  match modules.find? (·.name == name) with
  | some m => pure (some m.id)
  | none => do
    Logged.tell (.logLine s!"product `{product}` of `{identity}` names unknown module `{name}`")
    pure none

/-- A declared product. -/
def declaredProduct (a : Assembly) (table : AliasTable) (s : Staged) (decl : ProductDecl) :
    Logged PackageError Product := do
  let id : ProductId := ⟨s.identity, decl.name⟩
  let members ← Logged.mapList (memberOf s.identity s.modules decl.name) decl.modules
  let aliases ← Logged.ofExcept (table.aliasesFor id)
  pure
    { id
      kind := decl.kind
      modules := members.reduceOption
      aliases
      platforms := a.platforms s.manifest (decl.kind == .test)
      synthesized := false }

/-- A product that is not declared. -/
def addedProduct (a : Assembly) (s : Staged) (name : String) (kind : ProductKind)
    (members : List ModuleId) : Product where
  id := ⟨s.identity, name⟩
  kind := kind
  modules := members
  aliases := KeyedSet.empty
  platforms := a.platforms s.manifest (kind == .test)
  synthesized := true

/-- The test modules of a package. -/
def testModules (s : Staged) : List Module := s.modules.filter (·.isTest)

/-- The name of the product that has all tests of a package. -/
def testProductName (m : Manifest) : String := m.displayName ++ "PackageTests"

/-- The test products that are not declared: one for each test module, or one for all. -/
def addedTestProducts (a : Assembly) (s : Staged) : List Product :=
  -- A declared product of any kind takes its name.
  let isFree (name : String) := (s.manifest.product? name).isNone
  if a.options.separateTestProducts then
    ((testModules s).filter fun t => isFree t.name).map fun t =>
      a.addedProduct s t.name .test [t.id]
  else if (testModules s).isEmpty || !isFree (testProductName s.manifest) then []
  else [a.addedProduct s (testProductName s.manifest) .test ((testModules s).map (·.id))]

/-- The product for interactive use: all library modules. -/
def addedReplProducts (a : Assembly) (s : Staged) : List Product :=
  let libraries := s.modules.filter fun m => m.kind == .library
  -- Whether a declared product has the name already is not asked.
  if a.options.replProduct && !libraries.isEmpty then
    [a.addedProduct s (s.manifest.displayName ++ "__REPL") .dynamicLibrary (libraries.map (·.id))]
  else []

/-- The products of a package that are not declared. -/
def addedProducts (a : Assembly) (s : Staged) : List Product :=
  if s.isRoot then a.addedTestProducts s ++ a.addedReplProducts s else []

/-- Whether a declared product is part of the graph. -/
def hasProduct (isRoot : Bool) (decl : ProductDecl) : Bool := isRoot || decl.kind != .test

/-- A package with its products. -/
def package (a : Assembly) (table : AliasTable) (s : Staged) : Logged PackageError Package := do
  let declared ← Logged.mapList (a.declaredProduct table s)
    (s.manifest.products.filter (hasProduct s.isRoot))
  pure
    { identity := s.identity
      manifest := s.manifest
      isRoot := s.isRoot
      modules := s.modules
      products := declared ++ a.addedProducts s
      dependencies := a.discovery.edgesOf s.identity
      enabledTraits := a.traits.of s.identity
      filter := a.discovery.filterOf s.identity }

/-- The packages in order of discovery, and the products that are used under other names. -/
structure Assembled where
  packages : List Package
  aliased : SortedSet ProductId

/-- Assembles all packages: first their modules, then their products. -/
def assemble (a : Assembly) : Logged PackageError Assembled := do
  let staged ← a.stageAll
  let table := AliasTable.ofList (staged.flatMap (·.aliases))
  let packages ← Logged.mapList (a.package table) staged
  pure ⟨packages, KeyedSet.ofList table.keys⟩

end ModuleGraph.Assembly
