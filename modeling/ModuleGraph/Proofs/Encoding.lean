import ModuleGraph.Manifest.Decode
import ModuleGraph.Manifest.Encode
import ModuleGraph.Proofs.Json
import ModuleGraph.Proofs.KeyedSet
import ModuleGraph.Proofs.Versions

/-!
# Manifests are read as they are written

For each type that a manifest is made of, reading what is written gives the value back, wherever it
stands.  Most values can be written without a condition.  The texts of versions carry only proper
ones, and of URLs it is asked that they come back from their texts.

## Key results

- `ModuleDependency.ofJson?_toJson`: dependencies of every kind
- `Manifest.Proper.of_ofJson?`: what is read has proper versions
- `Manifest.toJson_reads_back`: manifests that can be written, and those that have been read, come
  back
-/

namespace ModuleGraph

open Json (Dialect)

/-! ### Names, paths and kinds -/

@[simp] theorem Path.ofJson?_toJson (p : Path) : Path.ofJson? p.toJson = some p := rfl

@[simp] theorem Names.ofJson?_toJson (names : Names) :
    Names.ofJson? names.toJson = some names := by
  rw [Names.ofJson?, Names.toJson, Json.texts?_texts, Option.map_some, KeyedSet.ofList_toList]

@[simp] theorem Configuration.ofJson?_toJson (d : Dialect) (c : Configuration) :
    Configuration.ofJson? d c.toJson = some c := by
  cases c <;> rfl

@[simp] theorem ModuleKind.ofJson?_write (d : Dialect) (k : ModuleKind) :
    ModuleKind.ofJson? d (.text k.write) = some k := by
  show parse? k.write = some k
  cases k <;> decide

@[simp] theorem ProductKind.ofJson?_write (d : Dialect) (k : ProductKind) :
    ProductKind.ofJson? d (.text k.write) = some k := by
  show parse? k.write = some k
  cases k <;> decide

/-! ### Versions and origins -/

theorem Version.Proper.ofJson?_write {v : Version} (h : v.Proper) :
    Version.ofJson? (.text v.write) = some v := by
  rw [Version.ofJson?, Json.text?_text, Option.bind_eq_bind, Option.bind_some, h.parse?_write]

theorem Version.Proper.of_ofJson? {j : Json} {v : Version} (h : Version.ofJson? j = some v) :
    v.Proper := by
  obtain ⟨t, -, hparse⟩ := Option.bind_eq_some_iff.1 h
  exact .of_parse? hparse

/-- The URL of a repository. -/
def Origin.url? : Origin → Option Url
  | .repository url => some url
  | _ => none

theorem Origin.ofJson?_toJson {o : Origin} (h : ∀ url ∈ o.url?, Url.parse? url.write = some url) :
    Origin.ofJson? o.toJson = some o := by
  cases o with
  | repository url =>
    have hurl : Url.parse? url.write = some url := h url rfl
    simp [Origin.ofJson?, Origin.toJson, Json.choice?, hurl]
  | _ => simp [Origin.ofJson?, Origin.toJson, Json.choice?]

theorem PlatformRequirement.ofJson?_toJson (d : Dialect) {r : PlatformRequirement}
    (h : r.version.Proper) : PlatformRequirement.ofJson? d r.toJson = some r := by
  simp [PlatformRequirement.ofJson?, PlatformRequirement.toJson, PlatformVersion.ofJson?,
    h.parse?_write]

theorem PlatformRequirement.proper_of_ofJson? {d : Dialect} {j : Json} {r : PlatformRequirement}
    (h : PlatformRequirement.ofJson? d j = some r) : r.version.Proper := by
  simp only [PlatformRequirement.ofJson?, Option.bind_eq_bind, Option.bind_eq_some_iff,
    Option.some.injEq] at h
  obtain ⟨fs, -, platform, -, version, hversion, rfl⟩ := h
  simp only [Json.Fields.get?, Option.bind_eq_bind, Option.bind_eq_some_iff] at hversion
  obtain ⟨value, -, hread⟩ := hversion
  obtain ⟨t, -, hparse⟩ := Option.bind_eq_some_iff.1 hread
  exact .of_parse? hparse

/-! ### Modules and products -/

theorem DeclaredCondition.ofJson?_toJson (d : Dialect) (c : DeclaredCondition) :
    DeclaredCondition.ofJson? d c.toJson = some c := by
  have hplatforms : Json.nullable? Json.texts? (.optional Json.texts c.platforms) =
      some c.platforms :=
    Json.nullable?_optional rfl (by simp)
  have hconfiguration : Json.nullable? (Configuration.ofJson? d)
      (.optional Configuration.toJson c.configuration) = some c.configuration :=
    Json.nullable?_optional rfl (by simp)
  have htraits : Json.nullable? Names.ofJson? (.optional Names.toJson c.traits) = some c.traits :=
    Json.nullable?_optional rfl (by simp)
  simp [DeclaredCondition.ofJson?, DeclaredCondition.toJson, hplatforms, hconfiguration, htraits]

theorem table?_textTable (t : SortedMap String String) :
    (textTable t).table? Json.text? = some t.toList :=
  Json.table?_record fun _ _ => rfl

theorem ModuleDependency.ofJson?_toJson (dep : ModuleDependency) :
    ModuleDependency.ofJson? dep.toJson = some dep := by
  obtain ⟨target, condition⟩ := dep
  -- The tag stands among the fields, and decides in which dialect they are read.
  have hcondition : Json.nullable? (DeclaredCondition.ofJson? .tagged)
      (.optional DeclaredCondition.toJson condition) = some condition :=
    Json.nullable?_optional rfl fun c _ => c.ofJson?_toJson .tagged
  cases target with
  | module name => simp [ofJson?, toJson, tag?, hcondition]
  | product name package aliases =>
    have hpackage : Json.nullable? Json.text? (.optional .text package) = some package :=
      Json.nullable?_optional rfl (by simp)
    simp [ofJson?, toJson, tag?, hcondition, hpackage, table?_textTable]
  | byName name => simp [ofJson?, toJson, tag?, hcondition]

theorem ModuleDecl.ofJson?_toJson (d : Dialect) (m : ModuleDecl) :
    ModuleDecl.ofJson? d m.toJson = some m := by
  have hpath : Json.nullable? Path.ofJson? (.optional Path.toJson m.path) = some m.path :=
    Json.nullable?_optional rfl (by simp)
  have hdependencies : Json.list? ModuleDependency.ofJson?
      (.list (m.dependencies.map ModuleDependency.toJson)) = some m.dependencies :=
    Json.list?_list fun dep _ => dep.ofJson?_toJson
  simp [ModuleDecl.ofJson?, ModuleDecl.toJson, hpath, hdependencies]

theorem ProductDecl.ofJson?_toJson (d : Dialect) (p : ProductDecl) :
    ProductDecl.ofJson? d p.toJson = some p := by
  simp [ProductDecl.ofJson?, ProductDecl.toJson]

/-! ### Dependencies and traits -/

theorem RequestedTrait.ofJson?_toJson (d : Dialect) (t : RequestedTrait) :
    RequestedTrait.ofJson? d t.toJson = some t := by
  have hcondition : Json.nullable? Names.ofJson? (.optional Names.toJson t.condition) =
      some t.condition :=
    Json.nullable?_optional rfl (by simp)
  simp [RequestedTrait.ofJson?, RequestedTrait.toJson, hcondition]

theorem Dependency.ofJson?_toJson (d : Dialect) {dep : Dependency}
    (h : ∀ url ∈ dep.origin.url?, Url.parse? url.write = some url) :
    Dependency.ofJson? d dep.toJson = some dep := by
  have hname : Json.nullable? Json.text? (.optional .text dep.name) = some dep.name :=
    Json.nullable?_optional rfl (by simp)
  have htraits : Json.nullable? (Json.list? (RequestedTrait.ofJson? d))
      (.optional (fun ts => .list (ts.map RequestedTrait.toJson)) dep.traits) = some dep.traits :=
    Json.nullable?_optional rfl fun ts _ => Json.list?_list fun t _ => t.ofJson?_toJson d
  simp [Dependency.ofJson?, Dependency.toJson, Origin.ofJson?_toJson h, hname, htraits]

theorem Trait.ofJson?_toJson (d : Dialect) (t : Trait) : Trait.ofJson? d t.toJson = some t := by
  obtain ⟨name, implies, description⟩ := t
  -- An absent description leaves no field, and a missing field is read as an absent description.
  cases description with
  | none => simp [Trait.ofJson?, Trait.toJson]
  | some text => simp [Trait.ofJson?, Trait.toJson, Json.nullable?]

/-! ### Manifests -/

namespace Manifest

/-- The URLs that a manifest mentions. -/
def urls (m : Manifest) : List Url :=
  (m.origin :: m.dependencies.map (·.origin)).filterMap Origin.url?

/-- Whether texts can write the versions of a manifest. -/
structure Proper (m : Manifest) : Prop where
  version : ∀ v ∈ m.version, v.Proper
  toolsVersion : m.toolsVersion.Proper
  platforms : ∀ r ∈ m.platforms, r.version.Proper

instance (m : Manifest) : Decidable m.Proper :=
  decidable_of_iff
    ((∀ v ∈ m.version, v.Proper) ∧ m.toolsVersion.Proper ∧ ∀ r ∈ m.platforms, r.version.Proper)
    ⟨fun h => ⟨h.1, h.2.1, h.2.2⟩, fun h => ⟨h.version, h.toolsVersion, h.platforms⟩⟩

/-- A manifest that has been read has proper versions, the default one included. -/
theorem Proper.of_ofJson? {d : Dialect} {j : Json} {m : Manifest} (h : ofJson? d j = some m) :
    m.Proper := by
  simp only [ofJson?, Option.bind_eq_bind, Option.bind_eq_some_iff, Option.some.injEq] at h
  obtain ⟨fs, -, displayName, -, origin, -, version, hversion, toolsVersion, htools, checkout, -,
    platforms, hplatforms, modules, -, products, -, dependencies, -, traits, -, rfl⟩ := h
  -- The version of the tools may be missing; the other versions have been read from texts.
  have hdefault : cycleTolerantTools.Proper := by decide
  have hrequirements : ∀ j l, Json.list? (PlatformRequirement.ofJson? d) j = some l →
      ∀ r ∈ l, r.version.Proper :=
    fun _ _ => Json.forall_of_list? fun _ _ => PlatformRequirement.proper_of_ofJson?
  constructor
  · exact Json.Fields.forall_of_opt? (fun _ _ => .of_ofJson?) hversion
  · exact Json.Fields.of_getD? (fun _ _ => .of_ofJson?) hdefault htools
  · exact Json.Fields.of_getD? hrequirements (by simp) hplatforms

/-- A manifest with proper versions is read as it is written. -/
theorem Proper.ofJson?_toJson (d : Dialect) {m : Manifest} (h : m.Proper)
    (hurls : ∀ url ∈ m.urls, Url.parse? url.write = some url) : ofJson? d m.toJson = some m := by
  -- The url of a git origin is one of the urls of the manifest, and `hurls` reads it back.
  have horigin : Origin.ofJson? m.origin.toJson = some m.origin := by
    apply Origin.ofJson?_toJson
    intro url hurl
    exact hurls url (List.mem_filterMap.2 ⟨m.origin, by simp, hurl⟩)
  -- Only versions can be improper: here, at the tools, and at the platforms below.
  have hversion : Json.nullable? Version.ofJson? (.optional (fun v => .text v.write) m.version) =
      some m.version :=
    Json.nullable?_optional rfl fun v hv => (h.version v hv).ofJson?_write
  have htools : Version.ofJson? (.text m.toolsVersion.write) = some m.toolsVersion :=
    h.toolsVersion.ofJson?_write
  have hcheckout : Json.nullable? Path.ofJson? (.optional Path.toJson m.checkout) =
      some m.checkout :=
    Json.nullable?_optional rfl (by simp)
  have hplatforms : Json.list? (PlatformRequirement.ofJson? d)
      (.list (m.platforms.map PlatformRequirement.toJson)) = some m.platforms :=
    Json.list?_list fun r hr => PlatformRequirement.ofJson?_toJson d (h.platforms r hr)
  have hmodules : Json.list? (ModuleDecl.ofJson? d) (.list (m.modules.map ModuleDecl.toJson)) =
      some m.modules :=
    Json.list?_list fun decl _ => decl.ofJson?_toJson d
  have hproducts : Json.list? (ProductDecl.ofJson? d)
      (.list (m.products.map ProductDecl.toJson)) = some m.products :=
    Json.list?_list fun decl _ => decl.ofJson?_toJson d
  -- The origins of the dependencies have urls too.
  have hdependencies : Json.list? (Dependency.ofJson? d)
      (.list (m.dependencies.map Dependency.toJson)) = some m.dependencies := by
    apply Json.list?_list
    intro dep hdep
    apply Dependency.ofJson?_toJson
    intro url hurl
    exact hurls url (List.mem_filterMap.2 ⟨dep.origin, by simp [List.mem_map_of_mem hdep], hurl⟩)
  have htraits : Json.list? (Trait.ofJson? d) (.list (m.traits.map Trait.toJson)) =
      some m.traits :=
    Json.list?_list fun t _ => t.ofJson?_toJson d
  simp [ofJson?, toJson, horigin, hversion, htools, hcheckout, hplatforms, hmodules, hproducts,
    hdependencies, htraits]

/-- Let the URLs of a manifest come back from their texts.  Then the manifest comes back from what
it is written as, whatever the dialect, exactly if texts can write its versions; and it does so in
any case if it has been read from some value, in whichever of its spellings. -/
theorem toJson_reads_back {m : Manifest}
    (hurls : ∀ url ∈ m.urls, Url.parse? url.write = some url) :
    (∀ d, ofJson? d m.toJson = some m ↔ m.Proper) ∧
      ∀ d j, ofJson? d j = some m → ∀ d', ofJson? d' m.toJson = some m := by
  constructor
  · intro d
    constructor
    · exact Proper.of_ofJson?
    · exact fun hproper => hproper.ofJson?_toJson d hurls
  · intro d j hread d'
    have hproper : m.Proper := .of_ofJson? hread
    exact hproper.ofJson?_toJson d' hurls

/-- A manifest with dependencies of every kind. -/
def sketchbook : Manifest where
  displayName := "Sketchbook"
  origin := .root ⟨"/home/sketchbook"⟩
  version := some ⟨1, 4, 0, "beta.2", "build.007"⟩
  toolsVersion := .release 5 9 0
  checkout := some ⟨"/tmp/sketchbook"⟩
  platforms := [⟨"macos", ⟨[10, 15]⟩⟩, ⟨"ios", ⟨[0]⟩⟩]
  modules :=
    [⟨"Ink", .library, none, []⟩,
      ⟨"Pad", .executable, some ⟨"Code/Pad"⟩,
        [⟨.module "Ink", none⟩,
          ⟨.product "Paper" (some "kit") (KeyedSet.ofList [("Fold", "PaperFold")]),
            some ⟨some ["linux"], some .release, some (KeyedSet.ofList ["Color"])⟩⟩,
          ⟨.product "Glue" none KeyedSet.empty, some ⟨some [], some .debug, none⟩⟩,
          ⟨.byName "Brush", some ⟨none, none, some KeyedSet.empty⟩⟩]⟩,
      ⟨"PadTests", .test, none, [⟨.module "Pad", none⟩]⟩]
  products := [⟨"Pad", .executable, ["Pad"]⟩, ⟨"Ink", .staticLibrary, ["Ink"]⟩]
  dependencies :=
    [⟨.repository ⟨"ssh", "git", "", some "example.com", some 2222, .segments ["kit.git"], none,
          none⟩,
        some "kit", some [⟨"Color", some (KeyedSet.ofList ["Color"])⟩, ⟨"Shade", none⟩]⟩,
      ⟨.registry "example.glue", none, none⟩,
      ⟨.directory ⟨"../brush"⟩, none, some []⟩]
  traits := [⟨"default", KeyedSet.ofList ["Color"], some "What is on."⟩, ⟨"Color", .empty, none⟩]

/-- A manifest in few words: as the list of its first fields, with blanks around a version. -/
def terse : Json :=
  .list
    [.text "Pad", .record [("root", .text "/pad")], .null, .text "6.1.0", .null,
      .list [.list [.text "ios", .text " +13.00 "]],
      .list
        [.record
          [("name", .text "Pad"), ("kind", .record [("library", .null)]),
            ("dependencies", .list [.list [.text "by-name", .text "Ink"]])]]]

/-- The manifest with dependencies of every kind comes back, and so does what is read from few
words. -/
theorem toJson_reads_back_sketchbook :
    (∀ url ∈ sketchbook.urls, Url.parse? url.write = some url) ∧ sketchbook.Proper ∧
      (∀ d, ofJson? d sketchbook.toJson = some sketchbook) ∧
      ∃ m, ofJson? .file terse = some m ∧ ∀ d, ofJson? d m.toJson = some m := by
  have hurls : ∀ url ∈ sketchbook.urls, Url.parse? url.write = some url := by decide +kernel
  have hproper : sketchbook.Proper := by decide +kernel
  exact ⟨hurls, hproper, fun d => ((toJson_reads_back hurls).1 d).2 hproper,
    _, rfl, (toJson_reads_back (by decide +kernel)).2 .file terse rfl⟩

end Manifest

end ModuleGraph
