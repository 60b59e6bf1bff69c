import ModuleGraph.Proofs.LoadedGraph
import ModuleGraph.Proofs.PlatformOrder

/-!
# How overrides raise platforms

Tests are built for the platforms that their manifest declares, raised by the overrides.  An
override is for the first requirement of its platform, whatever the case of the name, and raises it
if it asks for more; a platform that is not there is added.  So however the overrides are spelled
and ordered, the first requirement of each platform ends with the greatest version that is asked
for.

## Key results

- `Assembly.raise_cons`, `Assembly.raise_append`: an override is for the first requirement of its
  platform
- `Assembly.Raises.snoc`: what one more override does
- `Assembly.raises_platforms`: what all overrides do
- `Source.load_platforms`: the platforms of the modules and products of a graph
-/

namespace ModuleGraph

namespace PlatformRequirement

/-- Whether the requirement is for a platform of this name, whatever the case of the letters. -/
def isFor (p : PlatformRequirement) (name : String) : Bool := Text.equalFold p.platform name

/-- The requirement with a version that asks for more, if this one does. -/
def raisedTo (p : PlatformRequirement) (version : PlatformVersion) : PlatformRequirement :=
  if compare version p.version == .gt then { p with version } else p

/-- The same platform is required, and at least the same version of it. -/
def AtMost (p q : PlatformRequirement) : Prop :=
  q.platform = p.platform ∧ (compare p.version q.version).isLE = true

@[simp] theorem platform_raisedTo (p : PlatformRequirement) (v : PlatformVersion) :
    (p.raisedTo v).platform = p.platform := by
  unfold raisedTo
  split <;> rfl

@[simp] theorem isFor_raisedTo (p : PlatformRequirement) (v : PlatformVersion) (name : String) :
    (p.raisedTo v).isFor name = p.isFor name := by
  unfold isFor
  rw [platform_raisedTo]

/-- What is for a platform is for another one of the same name, up to the case of letters. -/
theorem isFor_eq_of_isFor {p : PlatformRequirement} {name : String} (h : p.isFor name = true)
    (other : String) : p.isFor other = Text.equalFold name other := by
  unfold isFor Text.equalFold
  rw [Text.equalFold_iff.1 h]

/-- Names that differ in the case of letters only are for the same requirements. -/
theorem any_isFor_congr {ps : List PlatformRequirement} {name name' : String}
    (h : Text.equalFold name name' = true) : ps.any (·.isFor name) = ps.any (·.isFor name') := by
  unfold isFor Text.equalFold
  rw [Text.equalFold_iff.1 h]

theorem AtMost.refl (p : PlatformRequirement) : p.AtMost p := ⟨rfl, Std.ReflCmp.isLE_rfl⟩

theorem AtMost.trans {p q r : PlatformRequirement} (h : p.AtMost q) (h' : q.AtMost r) :
    p.AtMost r :=
  ⟨h'.1.trans h.1, Std.TransCmp.isLE_trans h.2 h'.2⟩

/-- A raised requirement asks for at least as much as before. -/
theorem atMost_raisedTo (p : PlatformRequirement) (v : PlatformVersion) :
    p.AtMost (p.raisedTo v) := by
  refine ⟨platform_raisedTo p v, ?_⟩
  unfold raisedTo
  split
  · next h =>
    rw [Std.OrientedCmp.lt_of_gt (beq_iff_eq.1 h)]
    rfl
  · exact Std.ReflCmp.isLE_rfl

end PlatformRequirement

namespace Assembly

open PlatformRequirement (AtMost)

variable {declared raised added ps qs : List PlatformRequirement} {name : String}
  {version : PlatformVersion} {overrides : List (String × PlatformVersion)}

/-! ### One override -/

theorem raise_nil : raise [] (name, version) = [⟨name, version⟩] := rfl

/-- An override raises the first requirement of its platform. -/
theorem raise_cons (p : PlatformRequirement) (ps : List PlatformRequirement) :
    raise (p :: ps) (name, version) =
      if p.isFor name then p.raisedTo version :: ps else p :: raise ps (name, version) := by
  unfold raise PlatformRequirement.isFor
  dsimp only
  rw [List.findIdx?_cons]
  cases Text.equalFold p.platform name with
  | true => rfl
  | false => cases List.findIdx? (fun p => Text.equalFold p.platform name) ps <;> rfl

/-- An override is for the first list if that has its platform, and else for the second one. -/
theorem raise_append :
    raise (ps ++ qs) (name, version) =
      if ps.any (·.isFor name) then raise ps (name, version) ++ qs
      else ps ++ raise qs (name, version) := by
  induction ps with
  | nil => rfl
  | cons p ps ih =>
    rw [List.cons_append, raise_cons, raise_cons, ih, List.any_cons]
    cases p.isFor name <;> cases ps.any (·.isFor name) <;> rfl

/-- Where the platform is declared, no requirement is added, and none asks for less. -/
theorem forall₂_raise (h : ps.any (·.isFor name) = true) :
    List.Forall₂ AtMost ps (raise ps (name, version)) := by
  induction ps with
  | nil => exact nomatch h
  | cons p ps ih =>
    rw [raise_cons]
    cases hfor : p.isFor name with
    | true => exact .cons (p.atMost_raisedTo version) (List.forall₂_same.2 fun q _ => .refl q)
    | false =>
      rw [List.any_cons, hfor, Bool.false_or] at h
      exact .cons (.refl p) (ih h)

/-- The first requirement of a platform after an override. -/
theorem find?_raise (other : String) :
    (raise ps (name, version)).find? (·.isFor other) =
      if Text.equalFold name other then
        some (((ps.find? (·.isFor other)).map (·.raisedTo version)).getD ⟨name, version⟩)
      else ps.find? (·.isFor other) := by
  induction ps with
  | nil =>
    rw [raise_nil, List.find?_cons, List.find?_nil]
    show (match Text.equalFold name other with | true => _ | false => _) = _
    cases Text.equalFold name other <;> rfl
  | cons p ps ih =>
    rw [raise_cons]
    cases hfor : p.isFor name with
    | true =>
      -- A raised requirement is for the same names as before.
      simp only [if_true, List.find?_cons, PlatformRequirement.isFor_raisedTo,
        PlatformRequirement.isFor_eq_of_isFor hfor]
      cases Text.equalFold name other <;> rfl
    | false =>
      simp only [Bool.false_eq_true, if_false, List.find?_cons]
      cases hother : p.isFor other with
      | true =>
        -- The requirement is for the one name and not for the other, so these are different.
        have hne : Text.equalFold name other = false := by
          rw [Text.equalFold_symm, ← PlatformRequirement.isFor_eq_of_isFor hother, hfor]
        rw [hne]
        rfl
      | false => exact ih

/-- An override adds its platform, if it is not there. -/
theorem any_raise (other : String) :
    (raise ps (name, version)).any (·.isFor other) =
      (ps.any (·.isFor other) || Text.equalFold name other) := by
  induction ps with
  | nil => exact Bool.or_false _
  | cons p ps ih =>
    rw [raise_cons]
    cases hfor : p.isFor name with
    | true =>
      simp only [if_true, List.any_cons, PlatformRequirement.isFor_raisedTo,
        PlatformRequirement.isFor_eq_of_isFor hfor]
      cases Text.equalFold name other <;> simp
    | false => simp only [Bool.false_eq_true, if_false, List.any_cons, ih, Bool.or_assoc]

/-- A requirement stays as it is if the override is for another platform, or for a requirement
before it. -/
theorem getElem?_raise {i : Nat} {d : PlatformRequirement} (hd : ps[i]? = some d)
    (h : d.isFor name = false ∨ (ps.take i).any (·.isFor name) = true) :
    (raise ps (name, version))[i]? = some d := by
  induction ps generalizing i with
  | nil => exact nomatch hd
  | cons p ps ih =>
    rw [raise_cons]
    cases i with
    -- Nothing stands before the first requirement, so it is for another platform.
    | zero =>
      obtain rfl : p = d := Option.some.inj hd
      have hfor : p.isFor name = false := h.elim id fun hany => nomatch hany
      rw [if_neg (by simp [hfor])]
      rfl
    | succ i =>
      split
      · -- `p` takes the override, and the rest stays.
        exact hd
      · next hfor =>
        refine ih hd (h.imp_right fun hany => ?_)
        rw [List.take_succ_cons, List.any_cons] at hany
        simpa [hfor] using hany

/-- Distinct platforms stay distinct. -/
theorem pairwise_raise (h : ps.Pairwise fun p q => ¬ q.isFor p.platform = true) :
    (raise ps (name, version)).Pairwise fun p q => ¬ q.isFor p.platform = true := by
  induction ps with
  | nil => exact List.pairwise_singleton _ _
  | cons p ps ih =>
    obtain ⟨hp, hps⟩ := List.pairwise_cons.1 h
    rw [raise_cons]
    split
    · refine List.pairwise_cons.2 ⟨fun q hq => ?_, hps⟩
      rw [PlatformRequirement.platform_raisedTo]
      exact hp q hq
    · next hfor =>
      refine List.pairwise_cons.2 ⟨fun q hq => ?_, ih hps⟩
      -- What the override adds is for its own platform.
      have hnone : (raise ps (name, version)).any (·.isFor p.platform) = false := by
        rw [any_raise, Text.equalFold_symm, List.any_eq_false.2 hp, Bool.false_or]
        exact Bool.eq_false_iff.2 hfor
      exact List.any_eq_false.1 hnone q hq

/-! ### All overrides -/

/-- A version is the greatest of some versions. -/
def IsGreatestOf (v : PlatformVersion) (vs : List PlatformVersion) : Prop :=
  v ∈ vs ∧ ∀ w ∈ vs, (compare w v).isLE = true

/-- The versions of a platform that are asked for: by the first requirement for it that is declared,
and by overrides. -/
def asked (overrides : List (String × PlatformVersion)) (declared : List PlatformRequirement)
    (name : String) : List PlatformVersion :=
  ((declared.find? (·.isFor name)).map (·.version)).toList ++
    (overrides.filter fun o => Text.equalFold o.1 name).map (·.2)

/-- Overrides raise declared requirements and add others. -/
structure Raises (overrides : List (String × PlatformVersion))
    (declared raised added : List PlatformRequirement) : Prop where
  /-- The declared requirements stay in their order, and none is lowered. -/
  kept : List.Forall₂ AtMost declared raised
  /-- Only the first one of a platform is raised. -/
  later : ∀ i d, declared[i]? = some d → (declared.take i).any (·.isFor d.platform) = true →
    raised[i]? = some d
  /-- A platform is added if overrides name it and it is not declared. -/
  any_added : ∀ name, added.any (·.isFor name) =
    (overrides.any (fun o => Text.equalFold o.1 name) && !declared.any (·.isFor name))
  /-- No platform is added twice. -/
  distinct : added.Pairwise fun p q => ¬ q.isFor p.platform = true
  /-- The first requirement of a platform has the greatest version that is asked for. -/
  greatest : ∀ name p, (raised ++ added).find? (·.isFor name) = some p →
    IsGreatestOf p.version (asked overrides declared name)

/-- A requirement that is raised has the greatest version, if it had it before. -/
theorem IsGreatestOf.raisedTo {p : PlatformRequirement} {vs : List PlatformVersion}
    (h : IsGreatestOf p.version vs) :
    IsGreatestOf (p.raisedTo version).version (vs ++ [version]) := by
  obtain ⟨hmem, hle⟩ := h
  unfold PlatformRequirement.raisedTo
  split
  · next hgt =>
    have hlt : compare p.version version = .lt := Std.OrientedCmp.lt_of_gt (beq_iff_eq.1 hgt)
    -- The new version is greater than the one that was the greatest.
    refine ⟨List.mem_append_right _ (List.mem_singleton.2 rfl), fun w hw => ?_⟩
    rcases List.mem_append.1 hw with hw | hw
    · exact Std.TransCmp.isLE_trans (hle w hw) (by rw [hlt]; rfl)
    · rw [List.mem_singleton.1 hw]
      exact Std.ReflCmp.isLE_rfl
  · next hgt =>
    -- The new version is no greater, so the old one stays the greatest.
    refine ⟨List.mem_append_left _ hmem, fun w hw => ?_⟩
    rcases List.mem_append.1 hw with hw | hw
    · exact hle w hw
    · rw [List.mem_singleton.1 hw, Ordering.isLE_iff_ne_gt]
      simpa using hgt

/-- Requirements that were raised are for the same platforms as before. -/
theorem any_isFor_of_forall₂ (h : List.Forall₂ AtMost ps qs) (name : String) :
    qs.any (·.isFor name) = ps.any (·.isFor name) := by
  induction h with
  | nil => rfl
  | cons hpq _ ih =>
    rw [List.any_cons, List.any_cons, ih]
    unfold PlatformRequirement.isFor
    rw [hpq.1]

/-- So are those up to some place. -/
theorem any_take_of_forall₂ (h : List.Forall₂ AtMost ps qs) (i : Nat) (name : String) :
    (qs.take i).any (·.isFor name) = (ps.take i).any (·.isFor name) :=
  any_isFor_of_forall₂ (List.forall₂_take i h) name

/-- Nothing is raised without overrides. -/
theorem raises_nil (declared : List PlatformRequirement) : Raises [] declared declared [] where
  kept := List.forall₂_same.2 fun p _ => .refl p
  later := fun _ _ hd _ => hd
  any_added := fun _ => rfl
  distinct := .nil
  greatest := by
    intro name p hp
    rw [List.append_nil] at hp
    rw [asked, hp]
    simp [IsGreatestOf]

/-- One more version is asked for if the override is for the platform. -/
theorem asked_snoc (other : String) :
    asked (overrides ++ [(name, version)]) declared other =
      asked overrides declared other ++ if Text.equalFold name other then [version] else [] := by
  unfold asked
  rw [List.filter_append, List.map_append, List.append_assoc]
  cases h : Text.equalFold name other <;> simp [h]

/-- Nothing is asked for a platform that is not there. -/
theorem Raises.asked_eq_nil (h : Raises overrides declared raised added) {other : String}
    (hnone : (raised ++ added).find? (·.isFor other) = none) :
    asked overrides declared other = [] := by
  have hall : (raised ++ added).any (·.isFor other) = false :=
    List.any_eq_false.2 (List.find?_eq_none.1 hnone)
  rw [List.any_append, Bool.or_eq_false_iff, any_isFor_of_forall₂ h.kept, h.any_added] at hall
  obtain ⟨hdeclared, hoverrides⟩ := hall
  rw [hdeclared, Bool.not_false, Bool.and_true] at hoverrides
  rw [asked, List.find?_eq_none.2 (List.any_eq_false.1 hdeclared),
    List.filter_eq_nil_iff.2 (List.any_eq_false.1 hoverrides)]
  rfl

/-- After one more override, the first requirement of a platform still has the greatest version that
is asked for. -/
theorem Raises.greatest_raise (h : Raises overrides declared raised added) {other : String}
    {p : PlatformRequirement}
    (hp : (raise (raised ++ added) (name, version)).find? (·.isFor other) = some p) :
    IsGreatestOf p.version (asked (overrides ++ [(name, version)]) declared other) := by
  rw [find?_raise] at hp
  rw [asked_snoc]
  split at hp
  · next hfor =>
    rw [if_pos hfor]
    cases hfind : (raised ++ added).find? (·.isFor other) with
    | some q =>
      rw [hfind] at hp
      obtain rfl : q.raisedTo version = p := Option.some.inj hp
      exact (h.greatest other q hfind).raisedTo
    | none =>
      -- Nothing was asked for the platform until now, so the override is all there is.
      rw [hfind] at hp
      obtain rfl : ⟨name, version⟩ = p := Option.some.inj hp
      rw [h.asked_eq_nil hfind]
      simp [IsGreatestOf]
  · next hfor =>
    rw [if_neg hfor, List.append_nil]
    exact h.greatest other p hp

/-- One more override. -/
theorem Raises.snoc (h : Raises overrides declared raised added) (name : String)
    (version : PlatformVersion) :
    ∃ raised' added', raise (raised ++ added) (name, version) = raised' ++ added' ∧
      Raises (overrides ++ [(name, version)]) declared raised' added' := by
  have hsame := any_isFor_of_forall₂ h.kept name
  -- Either the platform is declared, or the override is for what was added.
  cases hany : raised.any (·.isFor name) with
  | true =>
    have heq : raise (raised ++ added) (name, version) = raise raised (name, version) ++ added := by
      rw [raise_append, if_pos hany]
    refine ⟨_, _, heq, ?kept, ?later, ?any_added, h.distinct, ?greatest⟩
    case kept => exact h.kept.comp (forall₂_raise hany) fun _ _ _ => AtMost.trans
    case later =>
      intro i d hd hbefore
      apply getElem?_raise (h.later i d hd hbefore)
      cases hfor : d.isFor name with
      | false => exact .inl rfl
      | true =>
        refine .inr ?_
        rw [any_take_of_forall₂ h.kept, ← PlatformRequirement.any_isFor_congr hfor]
        exact hbefore
    case any_added =>
      intro other
      rw [h.any_added, List.any_append, List.any_cons, List.any_nil, Bool.or_false]
      cases hother : Text.equalFold name other with
      | false => rw [Bool.or_false]
      | true =>
        rw [← PlatformRequirement.any_isFor_congr hother, ← hsame, hany, Bool.not_true,
          Bool.and_false, Bool.and_false]
    case greatest =>
      intro other p hp
      rw [← heq] at hp
      exact h.greatest_raise hp
  | false =>
    have heq : raise (raised ++ added) (name, version) = raised ++ raise added (name, version) := by
      rw [raise_append, if_neg (by simp [hany])]
    refine ⟨_, _, heq, h.kept, h.later, ?any_added, pairwise_raise h.distinct, ?greatest⟩
    case any_added =>
      intro other
      rw [any_raise, h.any_added, List.any_append, List.any_cons, List.any_nil, Bool.or_false]
      cases hother : Text.equalFold name other with
      | false => rw [Bool.or_false, Bool.or_false]
      | true =>
        rw [← PlatformRequirement.any_isFor_congr hother, ← hsame, hany, Bool.not_false,
          Bool.and_true, Bool.and_true]
    case greatest =>
      intro other p hp
      rw [← heq] at hp
      exact h.greatest_raise hp

/-- All overrides, one after the other. -/
theorem raises_foldl (overrides : List (String × PlatformVersion))
    (declared : List PlatformRequirement) :
    ∃ raised added, overrides.foldl raise declared = raised ++ added ∧
      Raises overrides declared raised added := by
  -- From the end: the last override finds what those before it have left.
  induction overrides using List.reverseRecOn with
  | nil => exact ⟨declared, [], (List.append_nil _).symm, raises_nil declared⟩
  | append_singleton overrides o ih =>
    obtain ⟨raised, added, heq, hraises⟩ := ih
    rw [List.foldl_append, heq]
    exact hraises.snoc o.1 o.2

/-- What is not a test is for the platforms that are declared. -/
theorem platforms_false (a : Assembly) (m : Manifest) : a.platforms m false = m.platforms := rfl

/-- A test is for these platforms as the overrides raise them. -/
theorem raises_platforms (a : Assembly) (m : Manifest) :
    ∃ raised added, a.platforms m true = raised ++ added ∧
      Raises a.options.platformOverrides.toList m.platforms raised added :=
  raises_foldl _ _

end Assembly

/-- The platforms of something whose package declares `declared`: tests have these as the overrides
raise them, everything else has them as they are. -/
def Options.SetsPlatforms (o : Options) (declared : List PlatformRequirement) (isTest : Bool)
    (platforms : List PlatformRequirement) : Prop :=
  if isTest then
    ∃ raised added, platforms = raised ++ added ∧
      Assembly.Raises o.platformOverrides.toList declared raised added
  else platforms = declared

/-- What assembly sets. -/
theorem Assembly.setsPlatforms (a : Assembly) (m : Manifest) (isTest : Bool) :
    a.options.SetsPlatforms m.platforms isTest (a.platforms m isTest) := by
  cases isTest with
  | true => exact a.raises_platforms m
  | false => exact a.platforms_false m

/-- The test modules and test products of a graph are for the platforms that the manifest of their
package declares, as the overrides raise them; all other modules and products are for these
platforms as they are declared. -/
theorem Source.load_platforms {s : Source} {g : Graph} (h : s.load.result = .ok g) :
    ∀ p ∈ g.packages.toList, s.catalog.manifest? p.identity = some p.manifest ∧
      (∀ m ∈ p.modules,
        s.options.SetsPlatforms p.manifest.platforms (m.kind == .test) m.platforms) ∧
      ∀ q ∈ p.products,
        s.options.SetsPlatforms p.manifest.platforms (q.kind == .test) q.platforms := by
  intro p hp
  obtain ⟨parts, hbuilt⟩ := exists_builtFrom h
  refine ⟨(hbuilt.manifest hp).1, fun m hm => ?_, fun q hq => ?_⟩
  · obtain ⟨decl, -, hmodule⟩ := (hbuilt.modules hp).exists_of_mem_right hm
    rw [hmodule.platforms, hmodule.kind]
    exact Assembly.setsPlatforms _ _ _
  · obtain ⟨table, staged, hpackage⟩ :=
      Assembly.exists_package hbuilt.assemble_eq (hbuilt.mem_packages.1 hp)
    rw [Assembly.package_platforms hpackage hq]
    exact Assembly.setsPlatforms _ _ _

/-- A root with a test.  Two requirements are for one platform, and so are some of the overrides;
their names differ in the case of letters. -/
def raisedApp : Source :=
  { Source.ofManifests
      [{ Manifest.bare (.root ⟨"/app"⟩) "App" with
          platforms := [⟨"macos", ⟨[10, 13]⟩⟩, ⟨"ios", ⟨[9]⟩⟩, ⟨"macOS", ⟨[10]⟩⟩]
          modules := [⟨"AppTests", .test, none, []⟩] }] with
    options := { Options.standard with
      platformOverrides := KeyedSet.ofList
        [("MACOS", ⟨[12, 0]⟩), ("MacOS", ⟨[11]⟩), ("ios", ⟨[9, 0]⟩), ("tvos", ⟨[15]⟩),
          ("tvOS", ⟨[16, 1]⟩)] } }

/-- The first requirement of each platform is raised to the greatest version. -/
theorem load_platforms_raisedApp :
    ∃ g p m, raisedApp.load.result = .ok g ∧ p ∈ g.packages.toList ∧ m ∈ p.modules ∧
      m.kind = .test ∧
      m.platforms = [⟨"macos", ⟨[12, 0]⟩⟩, ⟨"ios", ⟨[9]⟩⟩, ⟨"macOS", ⟨[10]⟩⟩, ⟨"tvOS", ⟨[16, 1]⟩⟩] ∧
      raisedApp.options.SetsPlatforms p.manifest.platforms true m.platforms := by
  have hany : (raisedApp.load.result.toOption.any fun g =>
      g.packages.toList.any fun p => p.modules.any fun m => decide (m.kind = .test ∧ m.platforms =
        [⟨"macos", ⟨[12, 0]⟩⟩, ⟨"ios", ⟨[9]⟩⟩, ⟨"macOS", ⟨[10]⟩⟩, ⟨"tvOS", ⟨[16, 1]⟩⟩])) =
          true := by
    decide +kernel
  obtain ⟨g, hload, hg⟩ := Except.exists_ok_of_any hany
  obtain ⟨p, hp, hmodules⟩ := List.any_eq_true.1 hg
  obtain ⟨m, hm, hok⟩ := List.any_eq_true.1 hmodules
  obtain ⟨hkind, hplatforms⟩ := of_decide_eq_true hok
  -- The general result says of these platforms how they have come about.
  have hsets := (Source.load_platforms hload p hp).2.1 m hm
  rw [hkind] at hsets
  exact ⟨g, p, m, hload, hp, hm, hkind, hplatforms, hsets⟩

end ModuleGraph
