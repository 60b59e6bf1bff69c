import ModuleGraph.Proofs.Discovery.Conflicts
import ModuleGraph.Proofs.LoadErrors
import ModuleGraph.Proofs.ModuleCycles
import ModuleGraph.Proofs.Similarity

/-!
# What is suggested for a product that was not found

The exact name is looked for in the packages that are neither the requesting one nor the one that
was searched; if one of them has the product, it is suggested, so that the reference can be
corrected to it.  A similar name is looked for in all packages, the requesting one too.  That one
may have a product of the very name, which it cannot use; then a product is suggested for itself.

## Key results

- `Assembly.mem_visibleNames`: the names among which a similar one is looked for
- `Assembly.suggestion_cases`: what is suggested, and when
- `Source.load_suggests`: the suggestions of all loads that fail for a product that was not found
-/

namespace ModuleGraph

namespace Assembly

variable {a : Assembly} {r : Request} {qualifier : Option String}

/-- A package of the graph that is neither the requesting one nor the one that was searched has the
product for others to use. -/
structure VendsElsewhere (a : Assembly) (r : Request) (qualifier : Option String) (id : Identity) :
    Prop where
  met : id ∈ a.discovery.order
  other : id ≠ r.package
  unsearched : a.searched? r qualifier ≠ some id
  vends : a.catalog.Vends id r.product

/-- The first of the names of visible products that is the requested one but for letter case. -/
def namesake? (a : Assembly) (name : String) : Option String :=
  a.visibleNames.find? fun n => Text.lowercase n = Text.lowercase name

/-- A suggestion is of use, or it is the requested name itself: the requesting package has a product
of this name, and no name comes first that is written in other letter case. -/
structure Advises (a : Assembly) (r : Request) (qualifier : Option String)
    (suggestion : Option Suggestion) : Prop where
  /-- A package that is suggested has the product. -/
  qualified : ∀ name package, suggestion = some (.qualified name package) →
    name = r.product ∧ ∃ id, a.VendsElsewhere r qualifier id ∧ id.name = package
  /-- If there is a package that could be suggested, one is. -/
  offered : (∃ id, a.VendsElsewhere r qualifier id) →
    ∃ package, suggestion = some (.qualified r.product package)
  /-- A name that is suggested is that of a product that a package of the graph has. -/
  similar : ∀ name, suggestion = some (.similar name) →
    ∃ id ∈ a.discovery.order, a.catalog.Vends id name
  /-- It is the requested name only if the requesting package has the product itself. -/
  own : ∀ name, suggestion = some (.similar name) →
    (name = r.product ↔
      a.catalog.Vends r.package r.product ∧ a.namesake? r.product = some r.product)
  /-- A reference without a qualifier is never told the requested name. -/
  unqualified : qualifier = none → suggestion ≠ some (.similar r.product)

/-! ### Names -/

/-- A similar name is looked for among the products that the packages of the graph have for others
to use. -/
theorem mem_visibleNames {name : String} :
    name ∈ a.visibleNames ↔ ∃ id ∈ a.discovery.order, a.catalog.Vends id name := by
  unfold visibleNames
  rw [List.mem_eraseDups, List.mem_flatMap]
  refine exists_congr fun id => and_congr_right fun _ => ?_
  cases hm : a.catalog.manifest? id with
  | none =>
    refine iff_of_false (fun h => nomatch h) ?_
    rintro ⟨m, -, hm', -⟩
    exact nomatch hm.symm.trans hm'
  | some m =>
    dsimp only
    rw [List.mem_filter, isSome_productIn?, and_iff_right_iff_imp]
    -- What is vended is declared.
    rintro ⟨m', declared, hm', hdeclared, -⟩
    cases hm.symm.trans hm'
    have hname : declared.name = name := by simpa using List.find?_some hdeclared
    exact hname ▸ List.mem_map_of_mem (List.mem_of_find?_eq_some hdeclared)

/-! ### Suggestions -/

/-- The first package that has the product elsewhere is suggested, or there is none and a similar
name is. -/
theorem suggestion_cases (a : Assembly) (r : Request) (qualifier : Option String) :
    (∃ id, a.VendsElsewhere r qualifier id ∧
        a.suggestion r.product r.package (a.searched? r qualifier) =
          some (.qualified r.product id.name)) ∨
      (∀ id, ¬ a.VendsElsewhere r qualifier id) ∧
        a.suggestion r.product r.package (a.searched? r qualifier) =
          (a.similarity r.product a.visibleNames).map .similar := by
  -- The packages that are searched are those that the suggestion may name.
  have hothers {id : Identity} :
      id ∈ (a.discovery.order.filter fun p =>
          p != r.package && some p != a.searched? r qualifier) ↔
        id ∈ a.discovery.order ∧ id ≠ r.package ∧ a.searched? r qualifier ≠ some id := by
    simp [List.mem_filter, eq_comm (a := a.searched? r qualifier)]
  unfold suggestion
  dsimp only
  split
  · next id hfind =>
    obtain ⟨hmet, hother, hunsearched⟩ := hothers.1 (List.mem_of_find?_eq_some hfind)
    have hfound := List.find?_some hfind
    exact .inl ⟨id, ⟨hmet, hother, hunsearched, isSome_productIn?.1 hfound⟩, rfl⟩
  · next hnone =>
    refine .inr ⟨fun id h => ?_, rfl⟩
    exact List.find?_eq_none.1 hnone id (hothers.2 ⟨h.met, h.other, h.unsearched⟩)
      (isSome_productIn?.2 h.vends)

/-- What is suggested for a product that the searched package does not have. -/
theorem advises_suggestion (hsimilarity : a.similarity = Similarity.byEdits)
    (hmet : r.package ∈ a.discovery.order)
    (hsearched : ∀ id, a.searched? r qualifier = some id → ¬ a.catalog.Vends id r.product)
    (hunqualified : qualifier = none → ¬ a.catalog.Vends r.package r.product) :
    a.Advises r qualifier (a.suggestion r.product r.package (a.searched? r qualifier)) := by
  rcases a.suggestion_cases r qualifier with ⟨id, helsewhere, heq⟩ | ⟨hnone, heq⟩
  · rw [heq]
    exact {
      qualified := fun _ _ h => by cases h; exact ⟨rfl, id, helsewhere, rfl⟩
      offered := fun _ => ⟨id.name, rfl⟩
      similar := fun _ h => nomatch h
      own := fun _ h => nomatch h
      unqualified := fun _ h => nomatch h }
  · rw [heq, hsimilarity]
    -- Only the requesting package could have the product.
    have honly : ∀ id ∈ a.discovery.order, a.catalog.Vends id r.product → id = r.package := by
      intro id hid hvends
      by_contra hother
      exact hnone id ⟨hid, hother, fun h => hsearched id h hvends, hvends⟩
    have hfirst {name : String}
        (h : (Similarity.byEdits r.product a.visibleNames).map Suggestion.similar =
          some (.similar name)) :
        Similarity.FirstNearest r.product a.visibleNames name := by
      obtain ⟨_, hbest, heq⟩ := Option.map_eq_some_iff.1 h
      cases heq
      exact Similarity.byEdits_eq_some.1 hbest
    have hown {name : String} (h : Similarity.FirstNearest r.product a.visibleNames name)
        (hsame : name = r.product) : a.catalog.Vends r.package r.product := by
      obtain ⟨id, hid, hvends⟩ := mem_visibleNames.1 h.mem
      rw [hsame] at hvends
      exact honly id hid hvends ▸ hvends
    refine ⟨?qualified, ?offered, ?similar, ?own, ?unqualified⟩
    case qualified =>
      intro _ _ h
      obtain ⟨_, -, heq⟩ := Option.map_eq_some_iff.1 h
      exact nomatch heq
    case offered => exact fun ⟨id, h⟩ => absurd h (hnone id)
    case similar => exact fun name h => mem_visibleNames.1 (hfirst h).mem
    case own =>
      intro name h
      -- No edits are needed for the name itself, so it is found if no namesake comes before it.
      constructor
      · rintro rfl
        have hnearest := hfirst h
        exact ⟨hown hnearest rfl, hnearest.find?_eq hnearest.mem rfl⟩
      · rintro ⟨hvends, hnamesake⟩
        have hmem : r.product ∈ a.visibleNames := mem_visibleNames.2 ⟨_, hmet, hvends⟩
        exact Option.some.inj (((hfirst h).find?_eq hmem rfl).symm.trans hnamesake)
    case unqualified => exact fun hnone h => hunqualified hnone (hown (hfirst h) rfl)

end Assembly

/-- If a load fails because a product was not found, a module of a package in the graph has asked
for it, and the error was made then. -/
theorem Source.exists_asks {s : Source} {package module product : String}
    {qualifier : Option String} {suggestion : Option Suggestion}
    (h : s.load.result =
      .error (.package (.productNotFound package module product qualifier suggestion))) :
    ∃ traits d r, s.enabledTraits = .ok traits ∧ s.discover traits = .ok d ∧
      (s.assembly traits d).Asks r qualifier ∧
      (s.assembly traits d).Unresolved r qualifier
        (.productNotFound package module product qualifier suggestion) := by
  generalize herror : PackageError.productNotFound package module product qualifier suggestion = e
    at h ⊢
  -- No other stage and no other failure of assembly has this error.
  cases Source.fails_of_load h with
  | traits => exact nomatch herror
  | discovery hdiscover =>
    obtain ⟨_, _, _, _, -, -, hclash⟩ := Catalog.discover_error hdiscover
    cases hclash <;> exact nomatch herror
  | packageCycle => exact nomatch herror
  | check _ hfault =>
    cases hfault with
    | emptyRoot => exact nomatch herror
    | moduleCycle => exact nomatch herror
    | duplicateProduct => exact nomatch herror
    | pluginDependency _ _ _ plugin _ e _ x _ => cases x <;> exact nomatch herror
  | assembly htraits hdiscover hfails =>
    cases hfails with
    | unknownModule => exact nomatch herror
    | multipleAliases => exact nomatch herror
    | @unresolved r qualifier' e hasks hunresolved =>
      -- The error repeats the qualifier of the reference.
      have hqualifier : qualifier' = qualifier := by
        cases hunresolved with
        | own => exact nomatch herror
        | ambiguous => exact nomatch herror
        | notFound => cases herror; rfl
      subst hqualifier
      exact ⟨_, _, r, htraits, hdiscover, hasks, hunresolved⟩

/-- If a load fails because a product was not found, a module of a package in the graph has asked
for it.  A package that is suggested is in the graph, is neither the requesting one nor the one that
was searched, and has a product of exactly this name; and one is suggested whenever there is one.  A
name that is suggested is that of a product that a package of the graph has.  It is not the
requested one, unless the reference names a package and the requesting package has a product of the
name itself. -/
theorem Source.load_suggests {s : Source} (hsimilarity : s.similarity = Similarity.byEdits)
    {package module product : String} {qualifier : Option String} {suggestion : Option Suggestion}
    (h : s.load.result =
      .error (.package (.productNotFound package module product qualifier suggestion))) :
    ∃ traits d r, s.enabledTraits = .ok traits ∧ s.discover traits = .ok d ∧
      (s.assembly traits d).Asks r qualifier ∧
      r.package.name = package ∧ r.module.name = module ∧ r.product = product ∧
      (s.assembly traits d).Advises r qualifier suggestion := by
  obtain ⟨traits, d, r, htraits, hdiscover, hasks, hunresolved⟩ := Source.exists_asks h
  obtain ⟨hmet, hm⟩ := (Assembly.mem_entries _ _ _).1 hasks.entry
  generalize herror : PackageError.productNotFound package module product qualifier suggestion = e
    at hunresolved
  cases hunresolved with
  | own => exact nomatch herror
  | ambiguous => exact nomatch herror
  | notFound hsearched hunqualified =>
    cases herror
    refine ⟨traits, d, r, htraits, hdiscover, hasks, rfl, rfl, rfl, ?_⟩
    refine Assembly.advises_suggestion hsimilarity hmet hsearched fun hnone => ?_
    -- The requesting package has no product of the name at all.
    rintro ⟨m, declared, hm', hdeclared, -⟩
    cases hm.symm.trans hm'
    rw [hunqualified hnone] at hdeclared
    exact nomatch hdeclared

/-- A root that asks another package for a product which only the root itself has. -/
def misled : Source :=
  { Source.ofManifests
      [{ usingPackages (.root ⟨"/app"⟩) "App" [("kit", "Core")] with
          products := [⟨"App", .library, ["App"]⟩, ⟨"Core", .library, ["App"]⟩] },
        usingPackages (.registry "kit") "Kit" []] with
    similarity := Similarity.byEdits }

/-- The product that was not found is suggested for itself. -/
theorem load_suggests_misled :
    misled.load.result = .error (.package (.productNotFound "app" "App" "Core" (some "kit")
      (some (.similar "Core")))) ∧
    ∃ traits d r, (misled.assembly traits d).Asks r (some "kit") ∧ r.product = "Core" ∧
      (misled.assembly traits d).Advises r (some "kit") (some (.similar "Core")) ∧
      misled.catalog.Vends r.package "Core" := by
  have hfails : misled.load.result.map (fun _ => ()) =
      .error (.package (.productNotFound "app" "App" "Core" (some "kit")
        (some (.similar "Core")))) := by
    decide +kernel
  have herror := Except.map_eq_error.1 hfails
  obtain ⟨traits, d, r, -, -, hasks, -, -, hproduct, hadvises⟩ := Source.load_suggests rfl herror
  have hown := ((hadvises.own "Core" rfl).1 hproduct.symm).1
  rw [hproduct] at hown
  exact ⟨herror, traits, d, r, hasks, hproduct, hadvises, hown⟩

end ModuleGraph
