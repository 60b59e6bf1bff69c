import ModuleGraph.Config
import ModuleGraph.Proofs.PlatformOverrides

/-!
# The settings of a user and of a project

The settings of a project stand before those of a user, setting by setting, and overrides name by
name.  Platforms are told apart without regard to case, but the layers tell the names of overrides
apart by every letter.  So an override of the user that spells a platform in another way than the
project stays beside that of the project, and a test is built for the greater one.

## Key results

- `Config.mem_versions_load`: the versions for a platform that the two layers leave
- `Assembly.Raises.exists_filter`: the one requirement for a platform that is only overridden
- `Config.load_layers`: when the override of a project decides for the tests, and which layer each
  other setting comes from
-/

namespace ModuleGraph

namespace Assembly

variable {overrides : List (String × PlatformVersion)}
  {declared raised added : List PlatformRequirement} {name : String}

/-- The greatest of some versions is the same as the first one if no other one is greater. -/
theorem IsGreatestOf.same_head_iff {v w : PlatformVersion} {ws : List PlatformVersion}
    (h : IsGreatestOf v (w :: ws)) :
    v.same w = true ↔ ∀ x ∈ ws, (compare x w).isLE = true := by
  obtain ⟨hmem, hgreatest⟩ := h
  rw [PlatformVersion.same_iff, and_iff_left (hgreatest w List.mem_cons_self)]
  constructor
  · intro hle x hx
    exact Std.TransCmp.isLE_trans (hgreatest x (List.mem_cons_of_mem _ hx)) hle
  · intro hothers
    rcases List.mem_cons.1 hmem with rfl | hv
    · exact Std.ReflCmp.isLE_rfl
    · exact hothers v hv

/-- A platform that is overridden and not declared is required once, with the greatest version that
overrides ask for. -/
theorem Raises.exists_filter (h : Raises overrides declared raised added)
    (hdeclared : declared.any (·.isFor name) = false)
    (hoverrides : overrides.any (fun o => Text.equalFold o.1 name) = true) :
    ∃ r, (raised ++ added).filter (·.isFor name) = [r] ∧
      IsGreatestOf r.version ((overrides.filter fun o => Text.equalFold o.1 name).map (·.2)) := by
  have hraised : raised.filter (·.isFor name) = [] := by
    rw [List.filter_eq_nil_iff, ← List.any_eq_false, any_isFor_of_forall₂ h.kept, hdeclared]
  have hadded : added.any (·.isFor name) = true := by
    rw [h.any_added, hdeclared, hoverrides]
    rfl
  -- What is added for the platform is added once.
  have hdistinct : (added.filter (·.isFor name)).Pairwise fun p q => ¬ q.isFor p.platform = true :=
    h.distinct.filter _
  rw [List.filter_append, hraised, List.nil_append]
  have hfor : ∀ p ∈ added.filter (·.isFor name), p.isFor name = true :=
    fun p hp => (List.mem_filter.1 hp).2
  cases hfilter : added.filter (·.isFor name) with
  | nil =>
    rw [List.filter_eq_nil_iff, ← List.any_eq_false, hadded] at hfilter
    exact nomatch hfilter
  | cons r rest =>
    rw [hfilter] at hdistinct hfor
    have hrest : rest = [] := by
      refine List.eq_nil_iff_forall_not_mem.2 fun q hq => ?_
      refine (List.pairwise_cons.1 hdistinct).1 q hq ?_
      rw [PlatformRequirement.isFor_eq_of_isFor (hfor q (List.mem_cons_of_mem _ hq)),
        Text.equalFold_symm]
      exact hfor r List.mem_cons_self
    subst hrest
    refine ⟨r, rfl, ?_⟩
    have hfind : (raised ++ added).find? (·.isFor name) = some r := by
      rw [← List.head?_filter, List.filter_append, hraised, hfilter]
      rfl
    have hgreatest := h.greatest name r hfind
    rwa [asked, List.find?_eq_none.2 (List.any_eq_false.1 hdeclared)] at hgreatest

end Assembly

namespace Config

/-- The versions that a layer has for a platform under other spellings of its name. -/
def otherwiseSpelled (c : Config) (name : String) : List PlatformVersion :=
  (c.platformOverrides.toList.filter fun o => o.1 != name && Text.equalFold o.1 name).map (·.2)

/-- A layer overrides a platform, in one spelling. -/
def Overrides (c : Config) (name : String) (version : PlatformVersion) : Prop :=
  SortedMap.get? c.platformOverrides name = some version ∧ c.otherwiseSpelled name = []

/-- Each setting is that of the upper layer, or if that leaves it open, that of the lower layer, or
if that leaves it open too, the standard one. -/
structure Layers (lower upper : Config) (o : Options) : Prop where
  filter : o.filter = Options.standard.filter
  separateTestProducts : o.separateTestProducts =
    (upper.separateTestProducts.or lower.separateTestProducts).getD
      Options.standard.separateTestProducts
  replProduct : o.replProduct =
    (upper.replProduct.or lower.replProduct).getD Options.standard.replProduct
  fileRules : o.fileRules = (upper.fileRules.or lower.fileRules).getD Options.standard.fileRules
  traits : o.traits = (upper.traits.or lower.traits).getD Options.standard.traits
  /-- Overrides are layered name by name, as the names are spelled. -/
  platformOverrides : ∀ name, SortedMap.get? o.platformOverrides name =
    (SortedMap.get? upper.platformOverrides name).or (SortedMap.get? lower.platformOverrides name)

/-- Nothing stands below the settings of a user. -/
theorem merge_unset (c : Config) : unset.merge c = c := by
  obtain ⟨tests, repl, rules, overrides, traits⟩ := c
  have hoverrides : KeyedSet.empty.union overrides = overrides :=
    KeyedSet.ofList_toList overrides
  simp only [merge, unset, Option.or_none, hoverrides]

/-- The overrides of both layers. -/
theorem platformOverrides_load (user project : Option (Option Config)) :
    (load user project).options.platformOverrides =
      (layer user).platformOverrides.union (layer project).platformOverrides := by
  rw [load, merge_unset]
  rfl

/-- The options with the settings of two layers. -/
theorem layers_load (user project : Option (Option Config)) :
    Layers (layer user) (layer project) (load user project).options where
  filter := rfl
  separateTestProducts := by rw [load, merge_unset]; rfl
  replProduct := by rw [load, merge_unset]; rfl
  fileRules := by rw [load, merge_unset]; rfl
  traits := by rw [load, merge_unset]; rfl
  platformOverrides := fun name => by rw [platformOverrides_load, SortedMap.get?_union]

/-- What a layer has under other spellings. -/
theorem mem_otherwiseSpelled {c : Config} {name : String} {version : PlatformVersion} :
    version ∈ c.otherwiseSpelled name ↔
      ∃ other, (other, version) ∈ c.platformOverrides.toList ∧ other ≠ name ∧
        Text.equalFold other name = true := by
  simp [otherwiseSpelled]

/-- Where the project overrides a platform in one spelling, its version is left, and those of the
user under other spellings. -/
theorem mem_versions_load {user project : Option (Option Config)} {name : String}
    {version : PlatformVersion} (hproject : (layer project).Overrides name version)
    {v : PlatformVersion} :
    v ∈ ((load user project).options.platformOverrides.toList.filter
        fun o => Text.equalFold o.1 name).map (·.2) ↔
      v ∈ version :: (layer user).otherwiseSpelled name := by
  obtain ⟨hversion, honly⟩ := hproject
  have hmem : (name, version) ∈ (layer project).platformOverrides.toList :=
    SortedMap.get?_eq_some_iff.1 hversion
  -- The project has no entry for the platform but this one.
  have hentry : ∀ other w, (other, w) ∈ (layer project).platformOverrides.toList →
      Text.equalFold other name = true → other = name := by
    intro other w hw hfold
    by_contra hne
    have := mem_otherwiseSpelled.2 ⟨other, hw, hne, hfold⟩
    rw [honly] at this
    exact nomatch this
  rw [platformOverrides_load, List.mem_cons, mem_otherwiseSpelled]
  simp only [List.mem_map, List.mem_filter, KeyedSet.mem_union, Prod.exists, exists_eq_right]
  constructor
  · -- An entry of the user is left only if the project has none that is spelled alike.
    rintro ⟨other, hw | ⟨hw, hnew⟩, hfold⟩
    · obtain rfl := hentry other v hw hfold
      rw [SortedMap.get?_eq_some_iff.2 hw] at hversion
      exact .inl (Option.some.inj hversion)
    · refine .inr ⟨other, hw, ?_, hfold⟩
      rintro rfl
      exact hnew ⟨_, version, hmem, rfl⟩
  · rintro (rfl | ⟨other, hv, hne, hfold⟩)
    · exact ⟨name, .inl hmem, Text.equalFold_iff.2 rfl⟩
    · refine ⟨other, .inr ⟨hv, ?_⟩, hfold⟩
      rintro ⟨_, w, hw, rfl⟩
      exact hne (hentry _ w hw hfold)

/-- Each setting comes from the project, or else from the user, or else it is the standard one.  If
a project overrides, in one spelling, a platform that a package does not declare, then the tests of
this package require the platform once, with the greatest of the version of the project and those
that the user has under other spellings: the version of the project, unless one of these asks for
more. -/
theorem load_layers (user project : Option (Option Config)) :
    Layers (layer user) (layer project) (load user project).options ∧
      ∀ {s : Source} {g : Graph},
        s.options.platformOverrides = (load user project).options.platformOverrides →
        s.load.result = .ok g →
        ∀ p ∈ g.packages.toList, ∀ m ∈ p.modules, m.kind = .test →
        ∀ name version, (layer project).Overrides name version →
          p.manifest.platforms.any (·.isFor name) = false →
          ∃ r, m.platforms.filter (·.isFor name) = [r] ∧
            Assembly.IsGreatestOf r.version (version :: (layer user).otherwiseSpelled name) ∧
            (r.version.same version = true ↔
              ∀ v ∈ (layer user).otherwiseSpelled name, (compare v version).isLE = true) := by
  refine ⟨layers_load user project, ?_⟩
  intro s g hoptions hload p hp m hm hkind name version hproject hdeclared
  have hversions := @mem_versions_load user project name version hproject
  -- The module is assembled with the overrides of both layers.
  obtain ⟨parts, hbuilt⟩ := Source.exists_builtFrom hload
  obtain ⟨decl, -, hmodule⟩ := (hbuilt.modules hp).exists_of_mem_right hm
  obtain ⟨raised, added, hplatforms, hraises⟩ :=
    (s.assembly parts.traits parts.discovery).raises_platforms p.manifest
  have htest : (decl.kind == ModuleKind.test) = true := by
    rw [← hmodule.kind, hkind]
    rfl
  have hoverridden : s.options.platformOverrides.toList.any
      (fun o => Text.equalFold o.1 name) = true := by
    have hv := hversions.2 List.mem_cons_self
    obtain ⟨o, ho, -⟩ := List.mem_map.1 hv
    obtain ⟨ho, hfold⟩ := List.mem_filter.1 ho
    rw [hoptions]
    exact List.any_eq_true.2 ⟨o, ho, hfold⟩
  -- The versions that overrides ask for are those that the two layers leave.
  obtain ⟨r, hfilter, hmem, hgreatest⟩ := hraises.exists_filter hdeclared hoverridden
  have hoptions' : (s.assembly parts.traits parts.discovery).options.platformOverrides =
      (load user project).options.platformOverrides := hoptions
  rw [hoptions'] at hmem hgreatest
  have hr : Assembly.IsGreatestOf r.version (version :: (layer user).otherwiseSpelled name) :=
    ⟨hversions.1 hmem, fun w hw => hgreatest w (hversions.2 hw)⟩
  refine ⟨r, ?_, hr, hr.same_head_iff⟩
  rw [hmodule.platforms, htest, hplatforms, hfilter]

end Config

/-- The settings of a user, who asks for more on a platform than the project below, and spells it in
another way. -/
def userSettings : Config :=
  { Config.unset with
    platformOverrides := KeyedSet.ofList [("macOS", ⟨[15]⟩), ("linux", ⟨[5]⟩)] }

/-- The settings of a project. -/
def projectSettings : Config :=
  { Config.unset with platformOverrides := KeyedSet.ofList [("macos", ⟨[13]⟩)] }

/-- A root with a test that is loaded with these settings. -/
def configuredApp : Source :=
  { Source.ofManifests
      [{ Manifest.bare (.root ⟨"/app"⟩) "App" with
          modules := [⟨"AppTests", .test, none, []⟩] }] with
    options := (Config.load (some (some userSettings)) (some (some projectSettings))).options }

/-- The test is built for the version of the user, though the project overrides the platform. -/
theorem load_layers_configuredApp :
    ∃ g p m, configuredApp.load.result = .ok g ∧ p ∈ g.packages.toList ∧ m ∈ p.modules ∧
      m.kind = .test ∧ projectSettings.Overrides "macos" ⟨[13]⟩ ∧
      p.manifest.platforms.any (·.isFor "macos") = false ∧
      m.platforms.filter (·.isFor "macos") = [⟨"macOS", ⟨[15]⟩⟩] ∧
      ∃ r, m.platforms.filter (·.isFor "macos") = [r] ∧
        Assembly.IsGreatestOf r.version (⟨[13]⟩ :: userSettings.otherwiseSpelled "macos") ∧
        (r.version.same ⟨[13]⟩ = true ↔
          ∀ v ∈ userSettings.otherwiseSpelled "macos", (compare v ⟨[13]⟩).isLE = true) := by
  have hany : (configuredApp.load.result.toOption.any fun g =>
      g.packages.toList.any fun p => p.modules.any fun m => decide (m.kind = .test ∧
        p.manifest.platforms.any (·.isFor "macos") = false ∧
        m.platforms.filter (·.isFor "macos") = [⟨"macOS", ⟨[15]⟩⟩])) = true := by
    decide +kernel
  obtain ⟨g, hload, hg⟩ := Except.exists_ok_of_any hany
  obtain ⟨p, hp, hmodules⟩ := List.any_eq_true.1 hg
  obtain ⟨m, hm, hok⟩ := List.any_eq_true.1 hmodules
  obtain ⟨hkind, hdeclared, hplatforms⟩ := of_decide_eq_true hok
  have hproject : projectSettings.Overrides "macos" ⟨[13]⟩ := ⟨by decide +kernel, by decide +kernel⟩
  have hlayers := (Config.load_layers (some (some userSettings)) (some (some projectSettings))).2
    (s := configuredApp) rfl hload p hp m hm hkind "macos" ⟨[13]⟩ hproject hdeclared
  exact ⟨g, p, m, hload, hp, hm, hkind, hproject, hdeclared, hplatforms, hlayers⟩

end ModuleGraph
