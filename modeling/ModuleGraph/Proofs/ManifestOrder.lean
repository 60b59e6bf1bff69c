import ModuleGraph.Proofs.LoadedGraph

/-!
# The order of the manifests

Of several manifests with one identity the first counts, whether it is a root or not.  So a manifest
that is no root hides a root of the same identity that stands behind it, and a root hides the other
manifest if it stands in front.  Nothing else depends on the order of the manifests but the order of
the roots: every later stage looks manifests up by identity.

## Key results

- `Catalog.manifest?_ofList`: a catalog finds the first manifest of an identity
- `Catalog.roots_ofList`: the roots of a catalog are the identities of the roots that it finds
- `Catalog.ofList_reorder`: manifests in another order make the same catalog if they hide the same
  roots
- `Source.load_reorder`: when manifests in another order make the same graph
-/

namespace ModuleGraph

/-- No two roots and no two other manifests of a list have the same identity. -/
structure DistinctKinds (mirrors : Mirrors) (l : List Manifest) : Prop where
  roots : ((l.filter fun m => m.isRoot).map fun m => mirrors.identify m.origin).Nodup
  others : ((l.filter fun m => !m.isRoot).map fun m => mirrors.identify m.origin).Nodup

/-- In a list of manifests, one that is no root stands in front of a root with its identity. -/
def Manifest.HiddenIn (mirrors : Mirrors) (l : List Manifest) (root : Manifest) : Prop :=
  ∃ before after, l = before ++ root :: after ∧ ∃ other ∈ before,
    other.isRoot = false ∧ mirrors.identify other.origin = mirrors.identify root.origin

/-- The same roots are hidden in two lists of manifests. -/
def HideAlike (mirrors : Mirrors) (l l' : List Manifest) : Prop :=
  ∀ root ∈ l, root.isRoot = true → (root.HiddenIn mirrors l ↔ root.HiddenIn mirrors l')

/-! ### Looking manifests up -/

namespace Catalog

variable {mirrors : Mirrors} {l : List Manifest} {m : Manifest} {id : Identity}

/-- What a catalog finds when a manifest has been added: what it found before, or else the new
manifest at its identity. -/
theorem manifest?_add (c : Catalog) :
    (c.add mirrors m).manifest? id =
      (c.manifest? id).or (if mirrors.identify m.origin = id then some m else none) := by
  unfold add
  dsimp only
  split
  · next hhas =>
    -- The catalog has the identity of the new manifest already.
    obtain ⟨old, hold⟩ := has_iff.1 hhas
    by_cases heq : mirrors.identify m.origin = id
    · rw [← heq, hold, Option.some_or]
    · rw [if_neg heq, Option.or_none]
  · next hhas =>
    have hnone : c.manifest? (mirrors.identify m.origin) = none := by
      rw [← Option.not_isSome_iff_eq_none, Option.isSome_iff_exists, ← has_iff]
      exact hhas
    by_cases heq : mirrors.identify m.origin = id
    · rw [if_pos heq, ← heq, hnone, Option.none_or]
      exact SortedMap.get?_put_self ..
    · rw [if_neg heq, Option.or_none]
      exact SortedMap.get?_put_of_ne _ _ (Ne.symm heq)

/-- The catalog of a longer list. -/
theorem ofList_snoc : ofList mirrors (l ++ [m]) = (ofList mirrors l).add mirrors m := by
  rw [ofList, List.foldl_append]
  rfl

/-- A catalog finds the first manifest of an identity. -/
theorem manifest?_ofList :
    (ofList mirrors l).manifest? id = l.find? fun m => mirrors.identify m.origin = id := by
  -- Induction from the end of the list, which is what has been added last.
  induction l using List.reverseRecOn with
  | nil => rfl
  | append_singleton l m ih =>
    rw [ofList_snoc, manifest?_add, ih, List.find?_append]
    by_cases heq : mirrors.identify m.origin = id <;> simp [heq]

/-- A catalog has the identities of its manifests. -/
theorem has_ofList :
    (ofList mirrors l).has id = true ↔ ∃ m ∈ l, mirrors.identify m.origin = id := by
  rw [has_iff, manifest?_ofList, ← Option.isSome_iff_exists, List.find?_isSome]
  simp

/-- What a catalog has found stays when a manifest is added. -/
theorem manifest?_add_of_has {c : Catalog} (h : c.has id = true) :
    (c.add mirrors m).manifest? id = c.manifest? id := by
  obtain ⟨old, hold⟩ := has_iff.1 h
  rw [manifest?_add, hold, Option.some_or]

/-- Adding a manifest lists its identity if it is a root and the identity is new. -/
theorem roots_add (c : Catalog) :
    (c.add mirrors m).roots =
      if m.isRoot && !c.has (mirrors.identify m.origin) then c.roots ++ [mirrors.identify m.origin]
      else c.roots := by
  unfold add
  dsimp only
  cases c.has (mirrors.identify m.origin) <;> cases m.isRoot <;> rfl

/-- If no two roots have the same identity, a catalog lists the identities of the roots that it
finds, in their order. -/
theorem roots_ofList
    (h : ((l.filter fun m => m.isRoot).map fun m => mirrors.identify m.origin).Nodup) :
    (ofList mirrors l).roots =
      ((l.filter fun m => m.isRoot).map fun m => mirrors.identify m.origin).filter fun id =>
        ((ofList mirrors l).manifest? id).any (·.isRoot) := by
  induction l using List.reverseRecOn with
  | nil => rfl
  | append_singleton l m ih =>
    rw [List.filter_append, List.map_append] at h ⊢
    obtain ⟨hfront, -, hapart⟩ := List.nodup_append.1 h
    -- The roots of the shorter list are found as before.
    have hsame : ∀ id ∈ (l.filter fun m => m.isRoot).map (fun m => mirrors.identify m.origin),
        (((ofList mirrors l).add mirrors m).manifest? id).any (·.isRoot) =
          ((ofList mirrors l).manifest? id).any (·.isRoot) := by
      intro id hid
      obtain ⟨r, hr, hrid⟩ := List.mem_map.1 hid
      have hhas : (ofList mirrors l).has id = true :=
        has_ofList.2 ⟨r, (List.mem_filter.1 hr).1, hrid⟩
      rw [manifest?_add_of_has hhas]
    rw [ofList_snoc, roots_add, ih hfront, List.filter_append, List.filter_congr hsame]
    cases hroot : m.isRoot with
    | false => simp [hroot]
    | true =>
      cases hhas : (ofList mirrors l).has (mirrors.identify m.origin) with
      | false =>
        have hnone : (ofList mirrors l).manifest? (mirrors.identify m.origin) = none := by
          rw [← Option.not_isSome_iff_eq_none, Option.isSome_iff_exists, ← has_iff, hhas]
          exact Bool.false_ne_true
        simp [hroot, manifest?_add, hnone]
      | true =>
        -- What the catalog finds is no root, since no other root has the identity.
        obtain ⟨old, hold⟩ := has_iff.1 hhas
        have hmem : old ∈ l ∧ mirrors.identify old.origin = mirrors.identify m.origin := by
          rw [manifest?_ofList] at hold
          exact ⟨List.mem_of_find?_eq_some hold, by simpa using List.find?_some hold⟩
        have hother : old.isRoot = false := by
          by_contra hnot
          have holdRoot : old ∈ l.filter fun m => m.isRoot :=
            List.mem_filter.2 ⟨hmem.1, by simpa using hnot⟩
          refine hapart _ (List.mem_map_of_mem holdRoot) _ ?_ hmem.2
          simp [hroot]
        simp [hroot, manifest?_add, hold, hother]

end Catalog

/-! ### Hidden roots -/

namespace DistinctKinds

variable {mirrors : Mirrors} {l l' : List Manifest}

/-- Manifests keep their identities in another order. -/
theorem perm (h : DistinctKinds mirrors l) (hperm : l'.Perm l) : DistinctKinds mirrors l' where
  roots := ((hperm.filter _).map _).nodup_iff.2 h.roots
  others := ((hperm.filter _).map _).nodup_iff.2 h.others

variable (h : DistinctKinds mirrors l)
include h

/-- Two roots of one identity are the same, and so are two other manifests. -/
theorem eq_of_identity {m m' : Manifest} (hm : m ∈ l) (hm' : m' ∈ l)
    (hkind : m.isRoot = m'.isRoot)
    (hid : mirrors.identify m.origin = mirrors.identify m'.origin) : m = m' := by
  cases hroot : m.isRoot with
  | true =>
    rw [hroot] at hkind
    exact List.inj_on_of_nodup_map h.roots (List.mem_filter.2 ⟨hm, hroot⟩)
      (List.mem_filter.2 ⟨hm', hkind.symm⟩) hid
  | false =>
    rw [hroot] at hkind
    exact List.inj_on_of_nodup_map h.others (List.mem_filter.2 ⟨hm, by simp [hroot]⟩)
      (List.mem_filter.2 ⟨hm', by simp [← hkind]⟩) hid

/-- A root stands in a list once. -/
theorem not_mem_of_root {before after : List Manifest} {root : Manifest}
    (hl : l = before ++ root :: after) (hroot : root.isRoot = true) :
    root ∉ before ∧ root ∉ after := by
  have hnodup := h.roots
  rw [hl, List.filter_append, List.filter_cons_of_pos hroot, List.map_append, List.map_cons]
    at hnodup
  -- Roots have distinct identities, so the root comes neither before nor after itself.
  obtain ⟨-, hafter, hapart⟩ := List.nodup_append.1 hnodup
  constructor
  · intro hmem
    have hfilter : root ∈ before.filter fun m => m.isRoot := List.mem_filter.2 ⟨hmem, hroot⟩
    exact hapart _ (List.mem_map_of_mem hfilter) _ List.mem_cons_self rfl
  · intro hmem
    have hfilter : root ∈ after.filter fun m => m.isRoot := List.mem_filter.2 ⟨hmem, hroot⟩
    exact (List.nodup_cons.1 hafter).1 (List.mem_map_of_mem hfilter)

/-- The first manifest with the identity of a root is a root exactly if the root is not hidden. -/
theorem isRoot_of_find? {root first : Manifest} (hmem : root ∈ l) (hroot : root.isRoot = true)
    (hfirst : l.find? (fun m => mirrors.identify m.origin = mirrors.identify root.origin) =
      some first) : first.isRoot = true ↔ ¬ root.HiddenIn mirrors l := by
  obtain ⟨hid, before, after, hl, hbefore⟩ := List.find?_eq_some_iff_append.1 hfirst
  have hid : mirrors.identify first.origin = mirrors.identify root.origin := by simpa using hid
  cases hkind : first.isRoot with
  | true =>
    have heq : first = root :=
      h.eq_of_identity (List.mem_of_find?_eq_some hfirst) hmem (hkind.trans hroot.symm) hid
    subst heq
    apply iff_of_true rfl
    rintro ⟨before', after', hl', other, hother, -, hsame⟩
    -- The root stands at one place only, and nothing in front of it has its identity.
    have hnot := h.not_mem_of_root hl hroot
    have hnot' := h.not_mem_of_root hl' hroot
    obtain ⟨rfl, -, -⟩ :=
      (List.append_cons_inj_of_notMem hnot'.1 hnot'.2).1 (hl'.symm.trans hl)
    simpa [hsame] using hbefore other hother
  | false =>
    apply iff_of_false Bool.false_ne_true
    rw [not_not]
    have hne : root ≠ first := by
      rintro rfl
      rw [hroot] at hkind
      exact nomatch hkind
    have hafter : root ∈ after := by
      rw [hl] at hmem
      rcases List.mem_append.1 hmem with hin | hin
      · simpa using hbefore root hin
      · exact (List.mem_cons.1 hin).resolve_left hne
    obtain ⟨between, rest, rfl⟩ := List.append_of_mem hafter
    exact ⟨before ++ first :: between, rest, by simp [hl], first, by simp, hkind, hid⟩

/-- In another order, the same manifests are found if the same roots are hidden. -/
theorem find?_reorder (hperm : l'.Perm l) (hhide : HideAlike mirrors l l') (id : Identity) :
    (l'.find? fun m => mirrors.identify m.origin = id) =
      l.find? fun m => mirrors.identify m.origin = id := by
  have h' := h.perm hperm
  cases hfind : l.find? fun m => mirrors.identify m.origin = id with
  | none =>
    rw [List.find?_eq_none] at hfind ⊢
    exact fun m hm => hfind m (hperm.mem_iff.1 hm)
  | some m =>
    have hm : m ∈ l := List.mem_of_find?_eq_some hfind
    obtain rfl : mirrors.identify m.origin = id := by simpa using List.find?_some hfind
    have hsome : (l'.find? fun m' =>
        mirrors.identify m'.origin = mirrors.identify m.origin).isSome := by
      rw [List.find?_isSome]
      exact ⟨m, hperm.mem_iff.2 hm, by simp⟩
    obtain ⟨m', hfind'⟩ := Option.isSome_iff_exists.1 hsome
    have hm' : m' ∈ l := hperm.mem_iff.1 (List.mem_of_find?_eq_some hfind')
    have hid : mirrors.identify m'.origin = mirrors.identify m.origin := by
      simpa using List.find?_some hfind'
    -- If one of the two is a root, then so is the other, since it is hidden in both or in none.
    have hkind : m'.isRoot = m.isRoot := by
      rw [Bool.eq_iff_iff]
      by_cases hroot : m.isRoot = true
      · rw [h'.isRoot_of_find? (hperm.mem_iff.2 hm) hroot hfind', ← hhide m hm hroot,
          h.isRoot_of_find? hm hroot hfind]
      · apply iff_of_false _ hroot
        intro hroot'
        rw [← hid] at hfind hfind'
        rw [h.isRoot_of_find? hm' hroot' hfind, hhide m' hm' hroot',
          ← h'.isRoot_of_find? (hperm.mem_iff.2 hm') hroot' hfind'] at hroot
        exact hroot hroot'
    rw [hfind', h.eq_of_identity hm' hm hkind hid]

end DistinctKinds

/-! ### Catalogs and graphs in another order -/

namespace Catalog

variable {mirrors : Mirrors} {l l' : List Manifest}

/-- Catalogs that find the same manifests hold the same manifests. -/
theorem manifests_eq_of_manifest? {c c' : Catalog} (h : ∀ id, c.manifest? id = c'.manifest? id) :
    c.manifests = c'.manifests := by
  apply KeyedSet.eq_of_mem_iff
  rintro ⟨id, m⟩
  rw [← SortedMap.get?_eq_some_iff, ← SortedMap.get?_eq_some_iff]
  exact Eq.congr_left (h id)

/-- Manifests in another order make the same catalog if the roots stay in their order and the same
roots are hidden. -/
theorem ofList_reorder (h : DistinctKinds mirrors l) (hperm : l'.Perm l)
    (hroots : l'.filter (fun m => m.isRoot) = l.filter fun m => m.isRoot)
    (hhide : HideAlike mirrors l l') : ofList mirrors l' = ofList mirrors l := by
  have hfound : ∀ id, (ofList mirrors l').manifest? id = (ofList mirrors l).manifest? id := by
    intro id
    rw [manifest?_ofList, manifest?_ofList]
    exact h.find?_reorder hperm hhide id
  have hsame : (ofList mirrors l').roots = (ofList mirrors l).roots := by
    rw [roots_ofList (h.perm hperm).roots, roots_ofList h.roots, hroots]
    simp only [hfound]
  have hmanifests := manifests_eq_of_manifest? hfound
  cases hc : ofList mirrors l
  cases hc' : ofList mirrors l'
  rw [hc, hc'] at hsame hmanifests
  rw [Catalog.mk.injEq]
  exact ⟨hmanifests, hsame⟩

end Catalog

namespace Source

variable {s : Source} {l : List Manifest}

/-- Manifests of the same catalog make the same graph. -/
theorem load_eq_of_catalog (h : Catalog.ofList s.mirrors l = s.catalog) :
    { s with manifests := l }.load = s.load := by
  have hcatalog : { s with manifests := l }.catalog = s.catalog := h
  simp only [load, enabledTraits, discover, assembly, inputs, hcatalog]

/-- A root manifest becomes a root package of the graph exactly if it is not hidden. -/
theorem BuiltFrom.exists_rootPackage_iff {g : Graph} {parts : Parts} (h : s.BuiltFrom g parts)
    (hdistinct : DistinctKinds s.mirrors s.manifests) {root : Manifest}
    (hmem : root ∈ s.manifests) (hroot : root.isRoot = true) :
    (∃ p ∈ g.rootPackages.toList, p.manifest = root) ↔ ¬ root.HiddenIn s.mirrors s.manifests := by
  constructor
  · -- The manifest of a package is the first of its identity, and a hidden root is not the first.
    rintro ⟨p, hp, rfl⟩
    have hfound := (h.manifest (h.mem_rootPackages.1 hp).1).1
    rw [catalog, Catalog.manifest?_ofList] at hfound
    obtain hid : s.mirrors.identify p.manifest.origin = p.identity := by
      simpa using List.find?_some hfound
    rw [← hid] at hfound
    exact (hdistinct.isRoot_of_find? hmem hroot hfound).1 hroot
  · intro hhidden
    -- Some manifest of the identity of the root comes first; it is a root, since nothing hides one.
    have hhas : s.catalog.has (s.mirrors.identify root.origin) = true :=
      Catalog.has_ofList.2 ⟨root, hmem, rfl⟩
    obtain ⟨first, hfirst⟩ := Catalog.has_iff.1 hhas
    have hfind := hfirst
    rw [catalog, Catalog.manifest?_ofList] at hfind
    have hkind := (hdistinct.isRoot_of_find? hmem hroot hfind).2 hhidden
    -- Two roots of one identity are the same manifest.
    have heq : first = root :=
      hdistinct.eq_of_identity (List.mem_of_find?_eq_some hfind) hmem (hkind.trans hroot.symm)
        (by simpa using List.find?_some hfind)
    subst heq
    -- So the catalog lists its identity among the roots, and the graph has its package.
    have hisRoot : s.catalog.isRoot (s.mirrors.identify first.origin) = true := by
      rw [Catalog.isRoot, List.contains_iff_mem, catalog, Catalog.roots_ofList hdistinct.roots,
        List.mem_filter]
      exact ⟨List.mem_map_of_mem (List.mem_filter.2 ⟨hmem, hroot⟩),
        (Option.any_eq_true _ _).2 ⟨first, hfirst, hroot⟩⟩
    obtain ⟨p, hp, hid⟩ := h.exists_rootPackage hisRoot
    have hmanifest := (h.manifest (h.mem_rootPackages.1 hp).1).1
    rw [hid, hfirst] at hmanifest
    exact ⟨p, hp, (Option.some.inj hmanifest).symm⟩

/-- Manifests in another order, the roots in the same one, load in the same way if the same roots
are hidden behind manifests that are none.  A graph that is loaded is loaded again only then, and
its root packages stand for the roots that are not hidden. -/
theorem load_reorder (hdistinct : DistinctKinds s.mirrors s.manifests)
    (hperm : l.Perm s.manifests)
    (hroots : l.filter (fun m => m.isRoot) = s.manifests.filter fun m => m.isRoot) :
    (HideAlike s.mirrors s.manifests l → { s with manifests := l }.load = s.load) ∧
      ∀ g, s.load.result = .ok g →
        ({ s with manifests := l }.load.result = .ok g ↔ HideAlike s.mirrors s.manifests l) ∧
        ∀ root ∈ s.manifests, root.isRoot = true →
          ((∃ p ∈ g.rootPackages.toList, p.manifest = root) ↔
            ¬ root.HiddenIn s.mirrors s.manifests) := by
  have hsame (hhide : HideAlike s.mirrors s.manifests l) :
      { s with manifests := l }.load = s.load :=
    load_eq_of_catalog (Catalog.ofList_reorder hdistinct hperm hroots hhide)
  refine ⟨hsame, fun g hg => ?_⟩
  obtain ⟨parts, hbuilt⟩ := exists_builtFrom hg
  have hrootPackages (root : Manifest) (hmem : root ∈ s.manifests) (hroot : root.isRoot = true) :=
    hbuilt.exists_rootPackage_iff hdistinct hmem hroot
  refine ⟨⟨fun hg' => ?_, fun hhide => (hsame hhide).symm ▸ hg⟩, hrootPackages⟩
  -- The root packages of the one graph tell which roots are hidden in either order.
  intro root hmem hroot
  obtain ⟨parts', hbuilt'⟩ := exists_builtFrom hg'
  rw [← not_iff_not, ← hrootPackages root hmem hroot]
  exact hbuilt'.exists_rootPackage_iff (hdistinct.perm hperm) (hperm.mem_iff.2 hmem) hroot

end Source

/-- A root whose identity a package of a registry has too. -/
def hiddenRoot.root : Manifest := usingPackages (.root ⟨"/kit"⟩) "Kit" []

/-- A root that stands behind the manifest of a registry. -/
def hiddenRoot : Source :=
  Source.ofManifests
    [usingPackages (.registry "kit") "Kit" [],
      usingPackages (.root ⟨"/app"⟩) "App" [("kit", "Kit")], hiddenRoot.root]

/-- The same manifests with the root in front. -/
def hiddenRoot.rootFirst : List Manifest :=
  [usingPackages (.root ⟨"/app"⟩) "App" [("kit", "Kit")], hiddenRoot.root,
    usingPackages (.registry "kit") "Kit" []]

/-- The hidden root is no package of the graph, so the other order makes another graph. -/
theorem load_reorder_hiddenRoot :
    ∃ g, hiddenRoot.load.result = .ok g ∧
      { hiddenRoot with manifests := hiddenRoot.rootFirst }.load.result ≠ .ok g ∧
      ¬ ∃ p ∈ g.rootPackages.toList, p.manifest = hiddenRoot.root := by
  have hdistinct : DistinctKinds hiddenRoot.mirrors hiddenRoot.manifests :=
    ⟨by decide +kernel, by decide +kernel⟩
  have hperm : hiddenRoot.rootFirst.Perm hiddenRoot.manifests :=
    List.perm_append_singleton _ (hiddenRoot.rootFirst.take 2)
  -- The root comes last, behind a manifest of its identity, and first in the other order.
  have hhidden : hiddenRoot.root.HiddenIn hiddenRoot.mirrors hiddenRoot.manifests :=
    ⟨hiddenRoot.manifests.take 2, [], rfl, usingPackages (.registry "kit") "Kit" [],
      List.mem_cons_self, rfl, by decide +kernel⟩
  have hfirst : hiddenRoot.rootFirst.find? (fun m => hiddenRoot.mirrors.identify m.origin =
      hiddenRoot.mirrors.identify hiddenRoot.root.origin) = some hiddenRoot.root := by
    decide +kernel
  have hseen : ¬ hiddenRoot.root.HiddenIn hiddenRoot.mirrors hiddenRoot.rootFirst :=
    ((hdistinct.perm hperm).isRoot_of_find? (by decide +kernel) rfl hfirst).1 rfl
  have hmem : hiddenRoot.root ∈ hiddenRoot.manifests := by decide +kernel
  have hany : (hiddenRoot.load.result.toOption.any fun _ => true) = true := by decide +kernel
  obtain ⟨g, hg, -⟩ := Except.exists_ok_of_any hany
  obtain ⟨hsame, hroots⟩ := (Source.load_reorder hdistinct hperm rfl).2 g hg
  refine ⟨g, hg, fun hg' => ?_, fun hroot => (hroots _ hmem rfl).1 hroot hhidden⟩
  -- If both orders made `g`, the root would be hidden in both.
  exact hseen ((hsame.1 hg' _ hmem rfl).1 hhidden)

end ModuleGraph
