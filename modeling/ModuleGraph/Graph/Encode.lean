import ModuleGraph.Graph.Package
import ModuleGraph.Manifest.Encode
import ModuleGraph.Diagnostic

/-! # Modules, products and diagnostics as JSON

Modules and products leave out what is seldom there: files, artifacts, prebuilt libraries and
aliases are written only if there are any. -/

namespace ModuleGraph

def ModuleId.toJson (id : ModuleId) : Json :=
  .record [("name", .text id.name), ("package", id.package.toJson)]

def ProductId.toJson (id : ProductId) : Json :=
  .record [("name", .text id.name), ("package", id.package.toJson)]

def EdgeTarget.toJson : EdgeTarget → Json
  | .module id => .record [("module", id.toJson)]
  | .product id => .record [("product", id.toJson)]

def Edge.toJson (e : Edge) : Json :=
  .record
    [("conditions", .list (e.conditions.map Condition.toJson)), ("target", e.target.toJson)]

def Resource.toJson (r : Resource) : Json :=
  .record [("path", r.path.toJson), ("rule", .text r.rule.write)]

def Sources.toJson (s : Sources) : Json :=
  let paths (ps : List Path) := Json.list (ps.map Path.toJson)
  .record
    [("headers", paths s.headers), ("ignored", paths s.ignored),
      ("resources", .list (s.resources.map Resource.toJson)), ("sources", paths s.sources)]

/-- A field that is left out unless a condition holds. -/
def fieldIf (present : Bool) (name : String) (value : Json) : List (String × Json) :=
  if present then [(name, value)] else []

def requirementsJson (rs : List PlatformRequirement) : Json :=
  .list (rs.map PlatformRequirement.toJson)

def Module.toJson (m : Module) : Json :=
  .record
    (fieldIf m.artifact.isSome "binary_artifact" (.optional Artifact.toJson m.artifact) ++
      [("dependencies", .list (m.edges.map Edge.toJson)), ("id", m.id.toJson),
        ("kind", .text m.kind.write), ("path", m.path.toJson),
        ("platforms", requirementsJson m.platforms)] ++
      fieldIf (!m.prebuilts.isEmpty) "prebuilt_libraries"
        (.list (m.prebuilts.map Prebuilt.toJson)) ++
      fieldIf (!m.sources.isEmpty) "sources" m.sources.toJson)

def Product.toJson (p : Product) : Json :=
  .record
    ([("id", p.id.toJson), ("kind", .text p.kind.write)] ++
      fieldIf (!p.aliases.isEmpty) "module_aliases" (textTable p.aliases) ++
      [("modules", .list (p.modules.map ModuleId.toJson)),
        ("platforms", requirementsJson p.platforms), ("synthesized", .bool p.synthesized)])

def Diagnostic.toJson (d : Diagnostic) : Json :=
  .record
    [("context", .texts d.context), ("message", .text d.message),
      ("package", .optional .text d.package), ("severity", .text d.severity.write),
      ("suggestions", .texts d.suggestions)]

end ModuleGraph
