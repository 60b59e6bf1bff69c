import ModuleGraph.Manifest
import ModuleGraph.Graph.Options
import ModuleGraph.Artifact
import ModuleGraph.Json.Decode

/-! # Manifests from JSON

Each type has a reader.  Missing fields take their defaults where there is one; null is a value of
optional fields alone.  A module dependency is tagged with its kind, and what stands below the tag
is read in the dialect for it. -/

namespace ModuleGraph

open Json (Dialect Fields)

def Path.ofJson? (j : Json) : Option Path := j.text?.map .mk

def Version.ofJson? (j : Json) : Option Version := j.text? >>= Version.parse?

def PlatformVersion.ofJson? (j : Json) : Option PlatformVersion :=
  j.text? >>= PlatformVersion.parse?

def Identity.ofJson? (j : Json) : Option Identity := j.text?.map Identity.ofName

/-- A list of names, as a set. -/
def Names.ofJson? (j : Json) : Option Names := j.texts?.map KeyedSet.ofList

/-- A choice between four kinds of origin. -/
def Origin.ofJson? (j : Json) : Option Origin :=
  match j.choice? with
  | some ("root", some value) => (Path.ofJson? value).map .root
  | some ("file-system", some value) => (Path.ofJson? value).map .directory
  | some ("remote-source-control", some value) => (value.text? >>= Url.parse?).map .repository
  | some ("registry", some value) => value.text?.map .registry
  | _ => none

def PlatformRequirement.ofJson? (d : Dialect) (j : Json) : Option PlatformRequirement := do
  let fs ← j.fields? d ["platform", "version"]
  some
    { platform := ← fs.get? "platform" Json.text?
      version := ← fs.get? "version" PlatformVersion.ofJson? }

def Configuration.ofJson? (d : Dialect) (j : Json) : Option Configuration :=
  j.word? d Configuration.parse?

def ModuleKind.ofJson? (d : Dialect) (j : Json) : Option ModuleKind :=
  j.word? d ModuleKind.parse?

def ProductKind.ofJson? (d : Dialect) (j : Json) : Option ProductKind :=
  j.word? d ProductKind.parse?

def ArtifactKind.ofJson? (d : Dialect) (j : Json) : Option ArtifactKind :=
  j.word? d ArtifactKind.parse?

def DeclaredCondition.ofJson? (d : Dialect) (j : Json) : Option DeclaredCondition := do
  let fs ← j.fields? d ["platforms", "configuration", "traits"]
  some
    { platforms := ← fs.opt? "platforms" Json.texts?
      configuration := ← fs.opt? "configuration" (Configuration.ofJson? d)
      traits := ← fs.opt? "traits" Names.ofJson? }

/-- The tag of a dependency and the value that its fields are read from. -/
def ModuleDependency.tag? (j : Json) : Option (String × Json) :=
  match j with
  | .record fields => (fields.lookup "kind" >>= Json.text?).map (·, j)
  | .list (.text tag :: rest) => some (tag, .list rest)
  | _ => none

def ModuleDependency.ofJson? (j : Json) : Option ModuleDependency := do
  let (tag, body) ← tag? j
  match tag with
  | "module" =>
    let fs ← body.fields? .tagged ["name", "condition"]
    some
      { target := .module (← fs.get? "name" Json.text?)
        condition := ← fs.opt? "condition" (DeclaredCondition.ofJson? .tagged) }
  | "product" =>
    let fs ← body.fields? .tagged ["name", "package", "module-aliases", "condition"]
    let name ← fs.get? "name" Json.text?
    let package ← fs.opt? "package" Json.text?
    let aliases ← fs.getD? "module-aliases" [] (Json.table? Json.text?)
    some
      { target := .product name package (KeyedSet.ofList aliases)
        condition := ← fs.opt? "condition" (DeclaredCondition.ofJson? .tagged) }
  | "by-name" =>
    let fs ← body.fields? .tagged ["name", "condition"]
    some
      { target := .byName (← fs.get? "name" Json.text?)
        condition := ← fs.opt? "condition" (DeclaredCondition.ofJson? .tagged) }
  | _ => none

def ModuleDecl.ofJson? (d : Dialect) (j : Json) : Option ModuleDecl := do
  let fs ← j.fields? d ["name", "kind", "path", "dependencies"]
  some
    { name := ← fs.get? "name" Json.text?
      kind := ← fs.get? "kind" (ModuleKind.ofJson? d)
      path := ← fs.opt? "path" Path.ofJson?
      dependencies := ← fs.getD? "dependencies" [] (Json.list? ModuleDependency.ofJson?) }

def ProductDecl.ofJson? (d : Dialect) (j : Json) : Option ProductDecl := do
  let fs ← j.fields? d ["name", "kind", "modules"]
  some
    { name := ← fs.get? "name" Json.text?
      kind := ← fs.get? "kind" (ProductKind.ofJson? d)
      modules := ← fs.get? "modules" Json.texts? }

def RequestedTrait.ofJson? (d : Dialect) (j : Json) : Option RequestedTrait := do
  let fs ← j.fields? d ["name", "condition"]
  some
    { name := ← fs.get? "name" Json.text?
      condition := ← fs.opt? "condition" Names.ofJson? }

def Dependency.ofJson? (d : Dialect) (j : Json) : Option Dependency := do
  let fs ← j.fields? d ["kind", "name", "traits"]
  some
    { origin := ← fs.get? "kind" Origin.ofJson?
      name := ← fs.opt? "name" Json.text?
      traits := ← fs.opt? "traits" (Json.list? (RequestedTrait.ofJson? d)) }

def Trait.ofJson? (d : Dialect) (j : Json) : Option Trait := do
  let fs ← j.fields? d ["name", "enabled-traits", "description"]
  some
    { name := ← fs.get? "name" Json.text?
      implies := ← fs.getD? "enabled-traits" KeyedSet.empty Names.ofJson?
      description := ← fs.opt? "description" Json.text? }

/-- A word or a list of names. -/
def TraitSelection.ofJson? (j : Json) : Option TraitSelection :=
  match j with
  | .text word => ofWord? word
  | j => (Names.ofJson? j).map .explicit

/-- The complaint about a value that is no selection. -/
def TraitSelection.complaint (j : Json) : String :=
  match j with
  | .text word => invalidMessage word
  | _ => "data did not match any variant of untagged enum TraitConfigurationRepr"

/-- The word for everything or a list of products; null is the empty list. -/
def ProductFilter.ofJson? (j : Json) : Option ProductFilter :=
  match j with
  | .null => some .nothing
  | .text "everything" => some .everything
  | j => j.texts?.map .ofList

def FileRules.ofJson? (d : Dialect) (j : Json) : Option FileRules := j.word? d FileRules.parse?

def PlatformOverrides.ofJson? (j : Json) : Option PlatformOverrides :=
  (j.table? PlatformVersion.ofJson?).map KeyedSet.ofList

def Manifest.ofJson? (d : Dialect) (j : Json) : Option Manifest := do
  let fs ← j.fields? d ["display-name", "kind", "version", "tools-version", "path", "platforms",
    "modules", "products", "dependencies", "traits"]
  some
    { displayName := ← fs.get? "display-name" Json.text?
      origin := ← fs.get? "kind" Origin.ofJson?
      version := ← fs.opt? "version" Version.ofJson?
      toolsVersion := ← fs.getD? "tools-version" Manifest.cycleTolerantTools Version.ofJson?
      checkout := ← fs.opt? "path" Path.ofJson?
      platforms := ← fs.getD? "platforms" [] (Json.list? (PlatformRequirement.ofJson? d))
      modules := ← fs.getD? "modules" [] (Json.list? (ModuleDecl.ofJson? d))
      products := ← fs.getD? "products" [] (Json.list? (ProductDecl.ofJson? d))
      dependencies := ← fs.getD? "dependencies" [] (Json.list? (Dependency.ofJson? d))
      traits := ← fs.getD? "traits" [] (Json.list? (Trait.ofJson? d)) }

def Artifact.ofJson? (d : Dialect) (j : Json) : Option Artifact := do
  let fs ← j.fields? d ["kind", "path"]
  some
    { kind := ← fs.get? "kind" (ArtifactKind.ofJson? d)
      path := ← fs.get? "path" Path.ofJson? }

def Prebuilt.ofJson? (d : Dialect) (j : Json) : Option Prebuilt := do
  let fs ← j.fields? d ["identity", "library-name", "path", "products", "include-path"]
  some
    { identity := ← fs.get? "identity" Identity.ofJson?
      libraryName := ← fs.get? "library-name" Json.text?
      path := ← fs.get? "path" Path.ofJson?
      products := ← fs.getD? "products" [] Json.texts?
      includePath := ← fs.opt? "include-path" Path.ofJson? }

/-- A table of tables; the keys of the outer one are package names. -/
def packageTable? {α : Type} (read : Json → Option α) (j : Json) :
    Option (SortedMap Identity (SortedMap String α)) := do
  let rows ← j.table? fun row => (row.table? read).map fun items =>
    (KeyedSet.ofList items : SortedMap String α)
  some (KeyedSet.ofList (rows.map fun (name, row) => (Identity.ofName name, row)))

def Artifacts.ofJson? (d : Dialect) (j : Json) : Option Artifacts :=
  packageTable? (Artifact.ofJson? d) j

def Prebuilts.ofJson? (d : Dialect) (j : Json) : Option Prebuilts :=
  packageTable? (Prebuilt.ofJson? d) j

end ModuleGraph
