import ModuleGraph.Manifest
import ModuleGraph.ProductFilter
import ModuleGraph.Artifact
import ModuleGraph.Json

/-! # Manifests as JSON

Every type is written with all its fields, absent values as null.  Only the description of a trait
is left out where there is none. -/

namespace ModuleGraph

def Path.toJson (p : Path) : Json := .text p.text

def Names.toJson (names : Names) : Json := .texts names.toList

def Identity.toJson (id : Identity) : Json := .text id.name

def Origin.toJson : Origin → Json
  | .root path => .record [("root", path.toJson)]
  | .directory path => .record [("file-system", path.toJson)]
  | .repository url => .record [("remote-source-control", .text url.write)]
  | .registry id => .record [("registry", .text id)]

def PlatformRequirement.toJson (r : PlatformRequirement) : Json :=
  .record [("platform", .text r.platform), ("version", .text r.version.write)]

def Configuration.toJson (c : Configuration) : Json := .text c.write

def DeclaredCondition.toJson (c : DeclaredCondition) : Json :=
  .record
    [("configuration", .optional Configuration.toJson c.configuration),
      ("platforms", .optional Json.texts c.platforms),
      ("traits", .optional Names.toJson c.traits)]

def Condition.toJson : Condition → Json
  | .platforms names => .record [("platforms", .texts names)]
  | .configuration c => .record [("configuration", c.toJson)]
  | .traits names => .record [("traits", Names.toJson names)]

/-- A table of texts. -/
def textTable (t : SortedMap String String) : Json :=
  .record (t.toList.map fun (name, value) => (name, .text value))

def ModuleDependency.toJson (d : ModuleDependency) : Json :=
  let condition := Json.optional DeclaredCondition.toJson d.condition
  match d.target with
  | .module name =>
    .record [("condition", condition), ("kind", .text "module"), ("name", .text name)]
  | .product name package aliases =>
    .record
      [("condition", condition), ("kind", .text "product"), ("module-aliases", textTable aliases),
        ("name", .text name), ("package", .optional .text package)]
  | .byName name =>
    .record [("condition", condition), ("kind", .text "by-name"), ("name", .text name)]

def ModuleDecl.toJson (m : ModuleDecl) : Json :=
  .record
    [("dependencies", .list (m.dependencies.map ModuleDependency.toJson)),
      ("kind", .text m.kind.write), ("name", .text m.name),
      ("path", .optional Path.toJson m.path)]

def ProductDecl.toJson (p : ProductDecl) : Json :=
  .record [("kind", .text p.kind.write), ("modules", .texts p.modules), ("name", .text p.name)]

def RequestedTrait.toJson (t : RequestedTrait) : Json :=
  .record [("condition", .optional Names.toJson t.condition), ("name", .text t.name)]

def Dependency.toJson (d : Dependency) : Json :=
  .record
    [("kind", d.origin.toJson), ("name", .optional .text d.name),
      ("traits", .optional (fun ts => .list (ts.map RequestedTrait.toJson)) d.traits)]

def Trait.toJson (t : Trait) : Json :=
  let description : List (String × Json) :=
    match t.description with
    | some text => [("description", .text text)]
    | none => []
  .record (description ++ [("enabled-traits", Names.toJson t.implies), ("name", .text t.name)])

def Manifest.toJson (m : Manifest) : Json :=
  .record
    [("dependencies", .list (m.dependencies.map Dependency.toJson)),
      ("display-name", .text m.displayName),
      ("kind", m.origin.toJson),
      ("modules", .list (m.modules.map ModuleDecl.toJson)),
      ("path", .optional Path.toJson m.checkout),
      ("platforms", .list (m.platforms.map PlatformRequirement.toJson)),
      ("products", .list (m.products.map ProductDecl.toJson)),
      ("tools-version", .text m.toolsVersion.write),
      ("traits", .list (m.traits.map Trait.toJson)),
      ("version", .optional (fun v => .text v.write) m.version)]

def TraitSelection.toJson : TraitSelection → Json
  | .defaults => .text "default"
  | .all => .text "all"
  | .explicit names => Names.toJson names

def ProductFilter.toJson : ProductFilter → Json
  | .everything => .text "everything"
  | .only names => .record [("specific", Names.toJson names)]

def Artifact.toJson (a : Artifact) : Json :=
  .record [("kind", .text a.kind.write), ("path", a.path.toJson)]

def Prebuilt.toJson (p : Prebuilt) : Json :=
  .record
    [("identity", p.identity.toJson), ("include-path", .optional Path.toJson p.includePath),
      ("library-name", .text p.libraryName), ("path", p.path.toJson),
      ("products", .texts p.products)]

def Artifacts.toJson (a : Artifacts) : Json :=
  .record (a.toList.map fun (id, row) =>
    (id.name, .record (row.toList.map fun (name, artifact) => (name, artifact.toJson))))

end ModuleGraph
