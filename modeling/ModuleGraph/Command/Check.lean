import ModuleGraph.Command
import ModuleGraph.Json.Write

/-! # The command that reports on a graph

It counts what is in the graph, and lists the packages that are needed and the traits that are
enabled. -/

namespace ModuleGraph.Command

/-- Texts in ascending order. -/
def sortedTexts (ss : List String) : List String := ss.mergeSort fun a b => compare a b != .gt

/-- A line for a package that is needed. -/
def requiredLine (g : Graph) (r : Reference) : String :=
  s!"  {r}" ++ if g.packages.contains r.identity then "" else " (not loaded)"

/-- A line for each package with enabled traits. -/
def traitLines (g : Graph) : List String :=
  (g.enabledTraits.toList.filter fun (_, names) => !names.isEmpty).map fun (id, names) =>
    s!"  {id}: " ++ ", ".intercalate names.toList

/-- A heading and lines below it, after an empty line; nothing if there are no lines. -/
def titled (heading : String) (lines : List String) : List String :=
  if lines.isEmpty then [] else ["", heading] ++ lines

/-- The report as lines. -/
def reportLines (g : Graph) : List String :=
  ["Loaded package graph for " ++ ", ".intercalate (g.rootPackages.keys.map (·.name)),
    s!"  packages: {g.packages.size} ({g.rootPackages.size} root)",
    s!"  modules:  {g.allModules.size} ({g.reachableModules.size} reachable)",
    s!"  products: {g.allProducts.size} ({g.reachableProducts.size} reachable)"] ++
    titled "Required dependencies:" (g.required.map (requiredLine g)) ++
    titled "Enabled traits:" (traitLines g)

/-- Lines as text. -/
def unlines (lines : List String) : String := String.join (lines.map (· ++ "\n"))

/-- The report as JSON. -/
def reportJson (g : Graph) (warnings : List Diagnostic) : Json :=
  let names (ss : List String) := Json.texts (sortedTexts ss)
  .record
    [("enabled-traits",
        .record (g.enabledTraits.toList.map fun (id, traits) => (id.name, Names.toJson traits))),
      ("modules", names (g.allModules.keys.map (·.write))),
      ("packages", names (g.packages.keys.map (·.name))),
      ("products", names (g.allProducts.keys.map (·.write))),
      ("reachable-modules", names (g.reachableModules.keys.map (·.write))),
      ("reachable-products", names (g.reachableProducts.keys.map (·.write))),
      ("required-dependencies", .list (g.required.map fun r =>
        .record [("identity", r.identity.toJson), ("location", .text r.origin.location)])),
      ("root-packages", names (g.rootPackages.keys.map (·.name))),
      ("warnings", .texts (warnings.map (·.message)))]

/-- The command. -/
def check (w : Workspace) (f : Flags) (asJson : Bool) : Outcome :=
  withGraph w f fun g warnings =>
    if asJson then .ok ⟨0, (reportJson g warnings).pretty ++ "\n", ""⟩
    else .ok ⟨0, unlines (reportLines g), renderWarnings warnings⟩

end ModuleGraph.Command
