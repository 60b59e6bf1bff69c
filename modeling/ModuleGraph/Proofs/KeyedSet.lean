import ModuleGraph.KeyedSet
import Mathlib.Data.List.Sort

/-!
# Keyed sets

Lookup and membership in sets of keyed items after each operation.  The items of a set are told
apart by their keys (`KeyedSet.key_inj`), so `find?` and `contains` say no more than membership in
`toList`, and two sets with the same items are equal.

## Key results

- `KeyedSet.find?_eq_some_iff`: an item is found at its key and nowhere else
- `KeyedSet.mem_insert`: what a set holds after an insertion
- `KeyedSet.mem_ofList_iff`: what the set of a list keeps of it
- `KeyedSet.mem_ofList_of_nodup`: the set of a list without repeated keys
- `KeyedSet.size_ofList_iff`: the set of a list is as large as the list if no key is repeated
- `KeyedSet.eq_of_mem_iff`: sets with the same items are equal
- `SortedMap.get?_put_self`, `SortedMap.get?_put_of_ne`, `SortedMap.get?_put_of_new`: maps after a
  change
- `SortedMap.get?_union`: the second map of a union counts
- `SortedSet.mem_union`: unions of plain sets
-/

namespace ModuleGraph

variable {α κ ν : Type}

/-- A key below another one is not that one. -/
private theorem ne_of_compare_lt [Ord κ] [Std.TransOrd κ] {k k' : κ} (h : compare k k' = .lt) :
    k ≠ k' := by
  intro heq
  subst heq
  rw [Std.ReflOrd.compare_self] at h
  exact nomatch h

namespace KeyedSet

section
variable [Ord κ] {key : α → κ}

/-- An item that is found is in the set. -/
theorem mem_of_find? {s : KeyedSet key} {k : κ} {a : α} (h : s.find? k = some a) :
    a ∈ s.toList :=
  List.mem_of_find?_eq_some h

/-- Only the kept items are in a filtered set. -/
theorem mem_filter {s : KeyedSet key} {p : α → Bool} {a : α} :
    a ∈ (s.filter p).toList ↔ a ∈ s.toList ∧ p a = true := by
  simp [filter]

/-- A key is in the set exactly if an item is found at it. -/
theorem contains_eq_isSome (s : KeyedSet key) (k : κ) : s.contains k = (s.find? k).isSome := by
  rw [contains, find?, List.isSome_find?]

end

section
variable [Ord κ] [Std.TransOrd κ] {key : α → κ}

/-- Items of a set with the same key are the same. -/
theorem key_inj {s : KeyedSet key} {a b : α} (ha : a ∈ s.toList) (hb : b ∈ s.toList)
    (h : key a = key b) : a = b := by
  have hasc := s.ascending
  generalize s.toList = l at ha hb hasc
  induction l with
  | nil => exact nomatch ha
  | cons c l ih =>
    obtain ⟨hc, hl⟩ := List.pairwise_cons.1 hasc
    -- The first item has a smaller key than all others.
    rcases List.mem_cons.1 ha with rfl | ha' <;> rcases List.mem_cons.1 hb with rfl | hb'
    · rfl
    · exact absurd h (ne_of_compare_lt (hc b hb'))
    · exact absurd h.symm (ne_of_compare_lt (hc a ha'))
    · exact ih ha' hb' hl

/-- No key comes twice in a set. -/
theorem nodup_keys (s : KeyedSet key) : (s.toList.map key).Nodup :=
  List.pairwise_map.2 (s.ascending.imp fun h => ne_of_compare_lt h)

/-- Sets with the same items are equal. -/
theorem eq_of_mem_iff {s t : KeyedSet key} (h : ∀ a, a ∈ s.toList ↔ a ∈ t.toList) : s = t := by
  have : Std.Irrefl fun a b : α => compare (key a) (key b) = .lt :=
    ⟨fun a ha => ne_of_compare_lt ha rfl⟩
  have : Std.Antisymm fun a b : α => compare (key a) (key b) = .lt :=
    ⟨fun a b hab hba => absurd rfl (ne_of_compare_lt (Std.TransCmp.lt_trans hab hba))⟩
  exact ext (List.Pairwise.eq_of_mem_iff s.ascending t.ascending fun a => h a)

end

section
variable [Ord κ] [Std.LawfulEqOrd κ] {key : α → κ}

/-- An item that is found has the key that was looked for. -/
theorem key_of_find? {s : KeyedSet key} {k : κ} {a : α} (h : s.find? k = some a) : key a = k := by
  simpa using List.find?_some h

/-- Nothing is found exactly if no item has the key. -/
theorem find?_eq_none_iff {s : KeyedSet key} {k : κ} :
    s.find? k = none ↔ ∀ a ∈ s.toList, key a ≠ k := by
  rw [find?, List.find?_eq_none]
  simp

/-- A key is in the set exactly if some item has it. -/
theorem contains_iff {s : KeyedSet key} {k : κ} :
    s.contains k = true ↔ ∃ a ∈ s.toList, key a = k := by
  simp [contains]

/-- All items but those with the key are left. -/
theorem mem_erase {s : KeyedSet key} {k : κ} {a : α} :
    a ∈ (s.erase k).toList ↔ a ∈ s.toList ∧ key a ≠ k := by
  simp [erase, mem_filter]

end

section
variable [Ord κ] [Std.TransOrd κ] [Std.LawfulEqOrd κ] {key : α → κ}

/-- An item is found at its key and nowhere else. -/
theorem find?_eq_some_iff {s : KeyedSet key} {k : κ} {a : α} :
    s.find? k = some a ↔ a ∈ s.toList ∧ key a = k := by
  refine ⟨fun h => ⟨mem_of_find? h, key_of_find? h⟩, fun ⟨hmem, hkey⟩ => ?_⟩
  cases hfind : s.find? k with
  | none =>
    have := List.find?_eq_none.1 hfind a hmem
    simp [hkey] at this
  | some b =>
    rw [key_inj (mem_of_find? hfind) hmem ((key_of_find? hfind).trans hkey.symm)]

/-- What an ascending list holds after an insertion. -/
theorem mem_insertByKey_iff {a x : α} {l : List α}
    (h : l.Pairwise fun x y => compare (key x) (key y) = .lt) :
    x ∈ insertByKey key a l ↔ x = a ∨ x ∈ l ∧ key x ≠ key a := by
  induction l with
  | nil => simp [insertByKey]
  | cons b l ih =>
    obtain ⟨hb, hl⟩ := List.pairwise_cons.1 h
    -- Whatever comes behind `b` has a key above that of `b`.
    have hne : ∀ y ∈ l, key y ≠ key b := fun y hy => (ne_of_compare_lt (hb y hy)).symm
    rw [insertByKey]
    split
    · next hlt =>
      have hab : key b ≠ key a := (ne_of_compare_lt hlt).symm
      have habove : ∀ y ∈ l, key y ≠ key a := fun y hy =>
        (ne_of_compare_lt (Std.TransCmp.lt_trans hlt (hb y hy))).symm
      simp only [List.mem_cons]
      constructor
      · rintro (rfl | rfl | hx)
        · exact .inl rfl
        · exact .inr ⟨.inl rfl, hab⟩
        · exact .inr ⟨.inr hx, habove x hx⟩
      · tauto
    · next heq =>
      have hab : key a = key b := Std.LawfulEqOrd.eq_of_compare heq
      simp only [List.mem_cons]
      constructor
      · rintro (rfl | hx)
        · exact .inl rfl
        · exact .inr ⟨.inr hx, hab ▸ hne x hx⟩
      · rintro (rfl | ⟨rfl | hx, hkey⟩)
        · exact .inl rfl
        · exact absurd hab.symm hkey
        · exact .inr hx
    · next hgt =>
      have hab : key b ≠ key a := ne_of_compare_lt (Std.OrientedCmp.gt_iff_lt.1 hgt)
      simp only [List.mem_cons, ih hl]
      constructor
      · rintro (rfl | rfl | ⟨hx, hkey⟩)
        · exact .inr ⟨.inl rfl, hab⟩
        · exact .inl rfl
        · exact .inr ⟨.inr hx, hkey⟩
      · tauto

/-- What a set holds after an insertion. -/
theorem mem_insert {s : KeyedSet key} {a x : α} :
    x ∈ (s.insert a).toList ↔ x = a ∨ x ∈ s.toList ∧ key x ≠ key a :=
  mem_insertByKey_iff s.ascending

/-- After several insertions, a set has the items whose keys do not come again. -/
theorem mem_insertAll_iff {s : KeyedSet key} {items : List α} {x : α} :
    x ∈ (s.insertAll items).toList ↔
      (∃ before after, items = before ++ x :: after ∧ key x ∉ after.map key) ∨
        x ∈ s.toList ∧ key x ∉ items.map key := by
  induction items generalizing s with
  | nil => simp [insertAll]
  | cons a items ih =>
    have hfold : s.insertAll (a :: items) = (s.insert a).insertAll items := rfl
    -- `ih` is about the set with `a`: the items behind `a` decide, then `a`, then `s`.
    rw [hfold, ih, mem_insert, List.map_cons, List.mem_cons, not_or]
    constructor
    · rintro (⟨before, after, rfl, hlast⟩ | ⟨rfl | ⟨hx, hne⟩, hkey⟩)
      · exact .inl ⟨a :: before, after, rfl, hlast⟩
      · exact .inl ⟨[], items, rfl, hkey⟩
      · exact .inr ⟨hx, hne, hkey⟩
    · rintro (⟨before, after, hsplit, hlast⟩ | ⟨hx, hne, hkey⟩)
      · -- The item that stays is `a` itself, or one behind it.
        cases before with
        | nil =>
          cases hsplit
          exact .inr ⟨.inl rfl, hlast⟩
        | cons b before =>
          cases hsplit
          exact .inl ⟨before, after, rfl, hlast⟩
      · exact .inr ⟨.inr ⟨hx, hne⟩, hkey⟩

/-- Several insertions add no other items. -/
theorem mem_of_mem_insertAll {s : KeyedSet key} {items : List α} {x : α}
    (h : x ∈ (s.insertAll items).toList) : x ∈ items ∨ x ∈ s.toList := by
  rcases mem_insertAll_iff.1 h with ⟨before, after, rfl, -⟩ | ⟨hx, -⟩
  · exact .inl (List.mem_append_right _ List.mem_cons_self)
  · exact .inr hx

/-- The set of the items of a list has no others. -/
theorem mem_of_mem_ofList {items : List α} {x : α}
    (h : x ∈ (ofList items : KeyedSet key).toList) : x ∈ items :=
  (mem_of_mem_insertAll h).resolve_right fun hx => nomatch hx

/-- The items of a set that come after one are those with a greater key. -/
theorem mem_after_iff {s : KeyedSet key} {before after : List α} {a x : α}
    (hsplit : s.toList = before ++ a :: after) (hx : x ∈ s.toList) :
    x ∈ after ↔ compare (key x) (key a) = .gt := by
  have hascending := s.ascending
  rw [hsplit] at hascending hx
  obtain ⟨-, hrest, hbefore⟩ := List.pairwise_append.1 hascending
  have hafter {y : α} (hy : y ∈ after) : compare (key y) (key a) = .gt :=
    Std.OrientedCmp.gt_iff_lt.2 ((List.pairwise_cons.1 hrest).1 y hy)
  refine ⟨hafter, fun hgt => ?_⟩
  rcases List.mem_append.1 hx with hx | hx
  · rw [hbefore x hx a List.mem_cons_self] at hgt
    exact nomatch hgt
  · rcases List.mem_cons.1 hx with rfl | hx
    · rw [Std.ReflOrd.compare_self] at hgt
      exact nomatch hgt
    · exact hx

/-- The set of a list has the items whose keys do not come again. -/
theorem mem_ofList_iff {items : List α} {x : α} :
    x ∈ (ofList items : KeyedSet key).toList ↔
      ∃ before after, items = before ++ x :: after ∧ key x ∉ after.map key := by
  rw [ofList, mem_insertAll_iff, or_iff_left fun hempty => nomatch hempty.1]

/-- Several insertions of items with keys of their own lose none of them. -/
theorem mem_insertAll_of_nodup {s : KeyedSet key} {items : List α}
    (hnodup : (items.map key).Nodup) {x : α} :
    x ∈ (s.insertAll items).toList ↔ x ∈ items ∨ x ∈ s.toList ∧ key x ∉ items.map key := by
  rw [mem_insertAll_iff]
  refine or_congr_left ⟨?_, fun hx => ?_⟩
  · rintro ⟨before, after, rfl, -⟩
    exact List.mem_append_right _ List.mem_cons_self
  · obtain ⟨before, after, rfl⟩ := List.append_of_mem hx
    rw [List.map_append, List.map_cons] at hnodup
    exact ⟨before, after, rfl, (List.nodup_cons.1 hnodup.of_append_right).1⟩

/-- The set of a list of items with keys of their own has just these items. -/
theorem mem_ofList_of_nodup {items : List α} (hnodup : (items.map key).Nodup) {x : α} :
    x ∈ (ofList items : KeyedSet key).toList ↔ x ∈ items := by
  rw [ofList, mem_insertAll_of_nodup hnodup]
  simp [empty]

/-- A set is the set of the items that it lists. -/
@[simp] theorem ofList_toList (s : KeyedSet key) : ofList s.toList = s :=
  eq_of_mem_iff fun _ => mem_ofList_of_nodup (nodup_keys s)

/-- The set of a list of items with keys of their own lists them in another order. -/
theorem toList_ofList_perm {items : List α} (hnodup : (items.map key).Nodup) :
    (ofList items : KeyedSet key).toList.Perm items :=
  (List.perm_ext_iff_of_nodup (nodup_keys _).of_map hnodup.of_map).2
    fun _ => mem_ofList_of_nodup hnodup

/-- The set of a list has as many items as the list exactly if no key comes twice there. -/
theorem size_ofList_iff {items : List α} :
    (ofList items : KeyedSet key).size = items.length ↔ (items.map key).Nodup := by
  constructor
  · intro hsize
    have hkeys : ∀ k ∈ (ofList items : KeyedSet key).toList.map key, k ∈ items.map key := by
      intro k hk
      obtain ⟨a, ha, rfl⟩ := List.mem_map.1 hk
      exact List.mem_map_of_mem (mem_of_mem_ofList ha)
    -- The keys of the set are distinct keys of the list, and as many as the list has items.
    have hperm : ((ofList items : KeyedSet key).toList.map key).Perm (items.map key) := by
      refine (List.subperm_of_subset (nodup_keys _) hkeys).perm_of_length_le ?_
      rw [List.length_map, List.length_map, ← hsize]
      exact Nat.le_refl _
    exact hperm.nodup_iff.1 (nodup_keys _)
  · intro hnodup
    exact (toList_ofList_perm hnodup).length_eq

/-- Among items with keys of their own, the order does not matter. -/
theorem ofList_perm {items items' : List α} (h : items.Perm items')
    (hnodup : (items.map key).Nodup) : (ofList items : KeyedSet key) = ofList items' := by
  have hnodup' : (items'.map key).Nodup := (h.map key).nodup_iff.1 hnodup
  refine eq_of_mem_iff fun a => ?_
  rw [mem_ofList_of_nodup hnodup, mem_ofList_of_nodup hnodup', h.mem_iff]

/-- An inserted item is found at its key. -/
@[simp] theorem find?_insert_self (s : KeyedSet key) (a : α) :
    (s.insert a).find? (key a) = some a :=
  find?_eq_some_iff.2 ⟨mem_insert.2 (.inl rfl), rfl⟩

/-- An insertion changes nothing at other keys. -/
theorem find?_insert_of_ne (s : KeyedSet key) (a : α) {k : κ} (h : k ≠ key a) :
    (s.insert a).find? k = s.find? k := by
  ext x
  simp only [find?_eq_some_iff, mem_insert]
  constructor
  · rintro ⟨rfl | ⟨hmem, -⟩, hkey⟩
    · exact absurd hkey.symm h
    · exact ⟨hmem, hkey⟩
  · intro ⟨hmem, hkey⟩
    exact ⟨.inr ⟨hmem, hkey ▸ h⟩, hkey⟩

/-- The keys of a set after an insertion. -/
theorem contains_insert {s : KeyedSet key} {a : α} {k : κ} :
    (s.insert a).contains k = true ↔ k = key a ∨ s.contains k = true := by
  simp only [contains_iff, mem_insert]
  constructor
  · rintro ⟨x, rfl | ⟨hmem, -⟩, hkey⟩
    · exact .inl hkey.symm
    · exact .inr ⟨x, hmem, hkey⟩
  · rintro (rfl | ⟨x, hmem, hkey⟩)
    · exact ⟨a, .inl rfl, rfl⟩
    · by_cases heq : key x = key a
      · exact ⟨a, .inl rfl, heq ▸ hkey⟩
      · exact ⟨x, .inr ⟨hmem, heq⟩, hkey⟩

/-- The keys of a set after several insertions. -/
theorem contains_insertAll {s : KeyedSet key} {items : List α} {k : κ} :
    (s.insertAll items).contains k = true ↔ (∃ a ∈ items, key a = k) ∨ s.contains k = true := by
  induction items generalizing s with
  | nil => simp [insertAll]
  | cons a items ih =>
    have hfold : s.insertAll (a :: items) = (s.insert a).insertAll items := rfl
    rw [hfold, ih, contains_insert, eq_comm (a := k)]
    simp only [List.exists_mem_cons_iff]
    rw [← or_assoc, or_comm (b := key a = k)]

/-- The keys of the set of a list. -/
theorem contains_ofList {items : List α} {k : κ} :
    (ofList items : KeyedSet key).contains k = true ↔ ∃ a ∈ items, key a = k := by
  rw [ofList, contains_insertAll]
  simp [empty, contains]

/-- An item that is the only one with its key is not lost when a list is made a set. -/
theorem mem_ofList_of_unique {items : List α} {a : α} (ha : a ∈ items)
    (hunique : ∀ b ∈ items, key b = key a → b = a) :
    a ∈ (ofList items : KeyedSet key).toList := by
  have hkey : (ofList items : KeyedSet key).contains (key a) = true :=
    contains_ofList.2 ⟨a, ha, rfl⟩
  -- Whatever stands at its key in the set comes from the list, so it is the item.
  obtain ⟨b, hb, heq⟩ := contains_iff.1 hkey
  exact hunique b (mem_of_mem_ofList hb) heq ▸ hb

/-- A list of items of a set loses none of them when it is made a set. -/
theorem mem_ofList_of_subset {s : KeyedSet key} {items : List α}
    (hitems : ∀ a ∈ items, a ∈ s.toList) {x : α} :
    x ∈ (ofList items : KeyedSet key).toList ↔ x ∈ items := by
  constructor
  · exact mem_of_mem_ofList
  · intro hx
    exact mem_ofList_of_unique hx fun b hb heq => key_inj (hitems b hb) (hitems x hx) heq

/-- The items that are found at some keys. -/
theorem mem_filterMap_find? {s : KeyedSet key} {keys : List κ} {a : α} :
    a ∈ keys.filterMap s.find? ↔ a ∈ s.toList ∧ key a ∈ keys := by
  simp only [List.mem_filterMap, find?_eq_some_iff]
  constructor
  · rintro ⟨k, hk, ha, rfl⟩
    exact ⟨ha, hk⟩
  · intro ⟨ha, hk⟩
    exact ⟨key a, hk, ha, rfl⟩

/-- A union has the items of the second set, and of the first one those whose keys are not there. -/
theorem mem_union {s t : KeyedSet key} {x : α} :
    x ∈ (s.union t).toList ↔ x ∈ t.toList ∨ x ∈ s.toList ∧ key x ∉ t.toList.map key := by
  rw [union, mem_insertAll_of_nodup (nodup_keys t)]

/-- The keys of a union. -/
theorem contains_union {s t : KeyedSet key} {k : κ} :
    (s.union t).contains k = true ↔ s.contains k = true ∨ t.contains k = true := by
  rw [union, contains_insertAll, ← contains_iff]
  exact or_comm

end

end KeyedSet

namespace SortedMap

/-- A map without entries has no values. -/
@[simp] theorem get?_empty [Ord κ] (k : κ) : get? (KeyedSet.empty : SortedMap κ ν) k = none := rfl

/-- A key is in the map exactly if there is a value at it. -/
theorem contains_eq_isSome [Ord κ] (m : SortedMap κ ν) (k : κ) :
    m.contains k = (get? m k).isSome := by
  rw [KeyedSet.contains_eq_isSome, get?, Option.isSome_map]

/-- A key that has no value is the key of no entry. -/
theorem get?_eq_none_iff [Ord κ] [Std.LawfulEqOrd κ] {m : SortedMap κ ν} {k : κ} :
    get? m k = none ↔ k ∉ m.toList.map Prod.fst := by
  rw [get?, Option.map_eq_none_iff, KeyedSet.find?_eq_none_iff, List.mem_map]
  constructor
  · rintro hnone ⟨entry, hmem, hkey⟩
    exact hnone entry hmem hkey
  · intro hnone entry hmem hkey
    exact hnone ⟨entry, hmem, hkey⟩

variable [Ord κ] [Std.TransOrd κ] [Std.LawfulEqOrd κ]

/-- The value at a key that was just set. -/
@[simp] theorem get?_put_self (m : SortedMap κ ν) (k : κ) (v : ν) :
    get? (put m k v) k = some v := by
  have h := KeyedSet.find?_insert_self m (k, v)
  simp only [get?, put, h, Option.map_some]

/-- Setting a key changes nothing at other keys. -/
theorem get?_put_of_ne (m : SortedMap κ ν) {k k' : κ} (v : ν) (h : k' ≠ k) :
    get? (put m k v) k' = get? m k' := by
  rw [get?, put, KeyedSet.find?_insert_of_ne m (k, v) h, get?]

/-- The values of a map after a key has been set. -/
theorem get?_put_eq_some {m : SortedMap κ ν} {k k' : κ} {v v' : ν} :
    get? (put m k v) k' = some v' ↔ k' = k ∧ v' = v ∨ k' ≠ k ∧ get? m k' = some v' := by
  by_cases h : k' = k
  · subst h
    simp [eq_comm]
  · rw [get?_put_of_ne m v h]
    simp [h]

/-- The keys without a value after a key has been set. -/
theorem get?_put_eq_none {m : SortedMap κ ν} {k k' : κ} {v : ν} :
    get? (put m k v) k' = none ↔ k' ≠ k ∧ get? m k' = none := by
  by_cases h : k' = k
  · subst h
    simp
  · rw [get?_put_of_ne m v h]
    simp [h]

/-- Setting a key that is new keeps what is there. -/
theorem get?_put_of_new {m : SortedMap κ ν} {k k' : κ} {v v' : ν} (hnew : get? m k = none)
    (h : get? m k' = some v') : get? (put m k v) k' = some v' := by
  have hne : k' ≠ k := by
    intro heq
    rw [heq, hnew] at h
    exact nomatch h
  rw [get?_put_of_ne _ _ hne, h]

/-- The value at a key after a change. -/
@[simp] theorem getD_update_self (m : SortedMap κ ν) (k : κ) (default : ν) (f : ν → ν) :
    getD (update m k default f) k default = f (getD m k default) := by
  rw [getD, update, get?_put_self, Option.getD_some]

/-- A change of the value at a key leaves those at other keys. -/
theorem getD_update_of_ne (m : SortedMap κ ν) {k k' : κ} (default : ν) (f : ν → ν) (h : k' ≠ k) :
    getD (update m k default f) k' default = getD m k' default := by
  rw [getD, update, get?_put_of_ne _ _ h, getD]

/-- After changes of the values at some keys, the value at a key is what the changes at this key
make of it, one after the other. -/
theorem getD_foldl_update [DecidableEq κ] (items : List (κ × α)) (default : ν)
    (f : α → ν → ν) (m : SortedMap κ ν) (k : κ) :
    getD (items.foldl (fun t item => update t item.1 default (f item.2)) m) k default =
      ((items.filter fun item => item.1 = k).map (·.2)).foldl (fun v a => f a v)
        (getD m k default) := by
  induction items generalizing m with
  | nil => rfl
  | cons item items ih =>
    rw [List.foldl_cons, ih]
    by_cases hkey : item.1 = k
    · subst hkey
      simp
    · rw [getD_update_of_ne m default (f item.2) (Ne.symm hkey)]
      simp [hkey]

/-- A value of the map stands at its key. -/
theorem get?_eq_some_iff {m : SortedMap κ ν} {k : κ} {v : ν} :
    get? m k = some v ↔ (k, v) ∈ m.toList := by
  rw [get?, Option.map_eq_some_iff]
  constructor
  · rintro ⟨⟨k', v'⟩, hfind, rfl⟩
    obtain ⟨hmem, rfl⟩ := KeyedSet.find?_eq_some_iff.1 hfind
    exact hmem
  · intro hmem
    exact ⟨(k, v), KeyedSet.find?_eq_some_iff.2 ⟨hmem, rfl⟩, rfl⟩

/-- A union has the values of the second map, and where that has none, those of the first. -/
theorem get?_union (m m' : SortedMap κ ν) (k : κ) :
    get? (KeyedSet.union m m') k = (get? m' k).or (get? m k) := by
  refine Option.ext fun v => ?_
  rw [get?_eq_some_iff, KeyedSet.mem_union, Option.or_eq_some_iff, get?_eq_some_iff,
    get?_eq_some_iff, get?_eq_none_iff, and_comm (a := (k, v) ∈ m.toList)]

end SortedMap

namespace SortedSet

section
variable [Ord α] [Std.TransOrd α]

/-- A plain set lists no item twice. -/
theorem nodup (s : SortedSet α) : s.toList.Nodup :=
  s.ascending.imp fun h => ne_of_compare_lt h

/-- A plain set has no more items than a list that has them all. -/
theorem size_le_of_subset {s : SortedSet α} {l : List α} (h : ∀ a ∈ s.toList, a ∈ l) :
    s.size ≤ l.length :=
  (List.subperm_of_subset s.nodup h).length_le

/-- A plain set is all of another one if it is a part of it with as many items. -/
theorem eq_of_subset_of_size_le {s t : SortedSet α} (h : ∀ a ∈ s.toList, a ∈ t.toList)
    (hsize : t.size ≤ s.size) : s = t :=
  KeyedSet.eq_of_mem_iff fun _ =>
    ((List.subperm_of_subset s.nodup h).perm_of_length_le hsize).mem_iff

end

/-- A plain set contains its items. -/
theorem contains_iff_mem [Ord α] [Std.LawfulEqOrd α] {s : SortedSet α} {a : α} :
    s.contains a = true ↔ a ∈ s.toList := by
  simp [KeyedSet.contains_iff]

variable [Ord α] [Std.TransOrd α] [Std.LawfulEqOrd α]

/-- The items of a plain set after an insertion. -/
theorem mem_insert {s : SortedSet α} {a x : α} :
    x ∈ (s.insert a).toList ↔ x = a ∨ x ∈ s.toList := by
  rw [← contains_iff_mem, KeyedSet.contains_insert, contains_iff_mem]
  rfl

/-- The items of the plain set of a list. -/
theorem mem_ofList {items : List α} {x : α} :
    x ∈ (KeyedSet.ofList items : SortedSet α).toList ↔ x ∈ items := by
  rw [← contains_iff_mem, KeyedSet.contains_ofList]
  simp

/-- The items of a union of plain sets. -/
theorem mem_union {s t : SortedSet α} {x : α} :
    x ∈ (s.union t).toList ↔ x ∈ s.toList ∨ x ∈ t.toList := by
  rw [← contains_iff_mem, KeyedSet.contains_union, contains_iff_mem, contains_iff_mem]

end SortedSet

end ModuleGraph
