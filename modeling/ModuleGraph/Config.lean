import ModuleGraph.Graph.Options
import ModuleGraph.Manifest.Decode
import ModuleGraph.Manifest.Encode

/-! # Configuration

A configuration sets some of the options, and leaves the others open.  Layers are merged setting by
setting, the later one before the earlier one, platform overrides for each platform name by
itself. -/

namespace ModuleGraph

/-- Settings, each of which may be left open. -/
structure Config where
  separateTestProducts : Option Bool
  replProduct : Option Bool
  fileRules : Option FileRules
  platformOverrides : PlatformOverrides
  traits : Option TraitSelection
  deriving DecidableEq

namespace Config

/-- Nothing is set. -/
def unset : Config := ⟨none, none, none, KeyedSet.empty, none⟩

/-- Both layers; where both set something, `later` counts. -/
def merge (earlier later : Config) : Config where
  separateTestProducts := later.separateTestProducts.or earlier.separateTestProducts
  replProduct := later.replProduct.or earlier.replProduct
  fileRules := later.fileRules.or earlier.fileRules
  platformOverrides := earlier.platformOverrides.union later.platformOverrides
  traits := later.traits.or earlier.traits

/-- The settings of one layer from its file: a file that cannot be read as settings counts as
none. -/
def layer (file : Option (Option Config)) : Config := (file.join).getD unset

/-- The settings of a user, and over them those of a project. -/
def load (user project : Option (Option Config)) : Config :=
  (unset.merge (layer user)).merge (layer project)

/-- The options with these settings. -/
def options (c : Config) : Options :=
  let standard := Options.standard
  { standard with
    separateTestProducts := c.separateTestProducts.getD standard.separateTestProducts
    replProduct := c.replProduct.getD standard.replProduct
    fileRules := c.fileRules.getD standard.fileRules
    platformOverrides := c.platformOverrides
    traits := c.traits.getD standard.traits }

/-- The settings of the table for graphs. -/
def ofTable? (j : Json) : Option Config := do
  let fs ← j.fields? .file ["create-multiple-test-products", "create-repl-product", "file-rules",
    "platform-overrides", "traits"]
  some
    { separateTestProducts := ← fs.opt? "create-multiple-test-products" Json.bool?
      replProduct := ← fs.opt? "create-repl-product" Json.bool?
      fileRules := ← fs.opt? "file-rules" (FileRules.ofJson? .file)
      platformOverrides :=
        ← fs.getD? "platform-overrides" KeyedSet.empty PlatformOverrides.ofJson?
      traits := ← fs.opt? "traits" TraitSelection.ofJson? }

/-- The settings of a file. -/
def ofJson? (j : Json) : Option Config := do
  (← j.fields? .file ["graph"]).getD? "graph" unset ofTable?

/-- Platform versions by platform. -/
def overridesJson (overrides : PlatformOverrides) : Json :=
  .record (overrides.toList.map fun (name, version) => (name, .text version.write))

/-- The settings as a file. -/
def toJson (c : Config) : Json :=
  .record [("graph", .record
    [("create-multiple-test-products", .optional .bool c.separateTestProducts),
      ("create-repl-product", .optional .bool c.replProduct),
      ("file-rules", .optional (fun r => .text r.write) c.fileRules),
      ("platform-overrides", overridesJson c.platformOverrides),
      ("traits", .optional TraitSelection.toJson c.traits)])]

end Config

end ModuleGraph
