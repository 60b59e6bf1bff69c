import ModuleGraph.Origin
import ModuleGraph.Proofs.KeyedSet
import ModuleGraph.Proofs.List
import Mathlib.Data.List.Induction

/-!
# Histories of keyed sets

A set that any changes have made, one after the other, is a finite map from keys to items: at a key
it holds the item that was put there last, unless a later change took it out.  A map from keys to
items in which the same changes are made stores every item at its own key, and nothing else.

## Key results

- `KeyedSet.mem_apply`: what a set holds after one change
- `KeyedSet.mem_madeBy`: what it holds after any changes
- `KeyedSet.mapMadeBy_eq`: the map from keys to items in which the same changes are made
- `KeyedSet.madeBy_represents`: lookup, keys and operations of sets that changes have made
-/

namespace ModuleGraph.KeyedSet

variable {α κ : Type}

/-- A change of a set. -/
inductive Change [Ord κ] (key : α → κ) where
  | insert (a : α)
  | erase (k : κ)
  | insertAll (items : List α)
  | union (t : KeyedSet key)
  | diff (t : KeyedSet key)
  | inter (t : KeyedSet key)

namespace Change

section
variable [Ord κ] {key : α → κ}

/-- The change puts the item in; of several items with the same key, the last one. -/
def Puts : Change key → α → Prop
  | .insert a, x => x = a
  | .insertAll items, x => ∃ before after, items = before ++ x :: after ∧ key x ∉ after.map key
  | .union t, x => x ∈ t.toList
  | _, _ => False

/-- The change leaves nothing at the key. -/
def Clears : Change key → κ → Prop
  | .erase k', k => k = k'
  | .diff t, k => k ∈ t.keys
  | .inter t, k => k ∉ t.keys
  | _, _ => False

/-- The change decides what is at the key, whatever was there before. -/
def Decides (c : Change key) (k : κ) : Prop := c.Clears k ∨ ∃ a, c.Puts a ∧ key a = k

end

section
variable [Ord κ] [Std.TransOrd κ] {key : α → κ}

/-- The set after the change. -/
def apply (s : KeyedSet key) : Change key → KeyedSet key
  | .insert a => s.insert a
  | .erase k => s.erase k
  | .insertAll items => s.insertAll items
  | .union t => s.union t
  | .diff t => s.diff t
  | .inter t => s.inter t

/-- The same change of a map from keys to items, in which items are put at their keys. -/
def applyMap (m : SortedMap κ α) : Change key → SortedMap κ α
  | .insert a => m.put (key a) a
  | .erase k => m.erase k
  | .insertAll items => items.foldl (fun m a => m.put (key a) a) m
  | .union t => t.toList.foldl (fun m a => m.put (key a) a) m
  | .diff t => m.filter fun entry => !t.contains entry.1
  | .inter t => m.filter fun entry => t.contains entry.1

end

end Change

section
variable [Ord κ] [Std.TransOrd κ] {key : α → κ}

/-- The set that changes make of the empty one. -/
def madeBy (changes : List (Change key)) : KeyedSet key := changes.foldl Change.apply empty

/-- The map that changes make of the empty one. -/
def mapMadeBy (changes : List (Change key)) : SortedMap κ α :=
  changes.foldl Change.applyMap empty

end

/-- The item was put in by a change, and no later change has decided what is at its key. -/
def LastPut [Ord κ] {key : α → κ} (changes : List (Change key)) (a : α) : Prop :=
  ∃ c, c.Puts a ∧
    ∃ before after, changes = before ++ c :: after ∧ ∀ c' ∈ after, ¬ c'.Decides (key a)

/-- The items of a set as a map, each at its key. -/
def entries [Ord κ] {key : α → κ} (s : KeyedSet key) : SortedMap κ α :=
  ⟨s.toList.map fun a => (key a, a), List.pairwise_map.2 s.ascending⟩

/-! ### Changes of a set -/

section
variable [Ord κ] {key : α → κ} {changes : List (Change key)} {a : α}

/-- The last change is made to what the changes before it have made. -/
theorem madeBy_concat [Std.TransOrd κ] (changes : List (Change key)) (c : Change key) :
    madeBy (changes ++ [c]) = c.apply (madeBy changes) := by
  rw [madeBy, List.foldl_append]
  rfl

/-- What was put in last is what the last change puts in, or what was put in last before it and is
left alone by it. -/
theorem lastPut_concat {c : Change key} :
    LastPut (changes ++ [c]) a ↔ c.Puts a ∨ LastPut changes a ∧ ¬ c.Decides (key a) := by
  simp only [LastPut, List.exists_split_concat, List.forall_mem_append, List.forall_mem_singleton]
  constructor
  · rintro ⟨c', hputs, ⟨rfl, -⟩ | ⟨before, after, heq, hafter, hlast⟩⟩
    · exact .inl hputs
    · exact .inr ⟨⟨c', hputs, before, after, heq, hafter⟩, hlast⟩
  · rintro (hputs | ⟨⟨c', hputs, before, after, heq, hafter⟩, hlast⟩)
    · exact ⟨c, hputs, .inl ⟨rfl, fun c' hc' => nomatch hc'⟩⟩
    · exact ⟨c', hputs, .inr ⟨before, after, heq, hafter, hlast⟩⟩

end

/-! ### Keys and items of a set -/

section
variable [Ord κ] [Std.LawfulEqOrd κ] {key : α → κ} {s t : KeyedSet key}

/-- A key is in a set exactly if the set lists it among its keys. -/
theorem contains_iff_mem_keys {k : κ} : s.contains k = true ↔ k ∈ s.keys := by
  rw [contains_iff, keys, List.mem_map]

/-- A set is a part of another one if its keys are. -/
theorem subset_iff : s.subset t = true ↔ ∀ k ∈ s.keys, k ∈ t.keys := by
  rw [subset, List.all_eq_true]
  exact forall₂_congr fun k _ => contains_iff_mem_keys

/-- An intersection has the items whose keys are in the second set. -/
theorem mem_inter {a : α} : a ∈ (s.inter t).toList ↔ a ∈ s.toList ∧ key a ∈ t.keys := by
  rw [inter, mem_filter, contains_iff_mem_keys]

/-- A difference has the items whose keys are not in the second set. -/
theorem mem_diff {a : α} : a ∈ (s.diff t).toList ↔ a ∈ s.toList ∧ key a ∉ t.keys := by
  rw [diff, mem_filter, Bool.not_eq_true', Bool.eq_false_iff, ne_eq, contains_iff_mem_keys]

end

section
variable [Ord κ] [Std.TransOrd κ] [Std.LawfulEqOrd κ] {key : α → κ} {s t : KeyedSet key}

/-- An insertion tells that a key is new exactly if the set does not have it. -/
theorem insertNew_eq_true_iff {a : α} : (s.insertNew a).1 = true ↔ key a ∉ s.keys := by
  rw [insertNew, Bool.not_eq_true', Bool.eq_false_iff, ne_eq, contains_iff_mem_keys]

/-! ### Sets after changes -/

/-- Putting in a list of items puts an item at each of their keys. -/
theorem exists_puts_insertAll {items : List α} {k : κ} :
    (∃ a, (Change.insertAll items : Change key).Puts a ∧ key a = k) ↔ k ∈ items.map key := by
  have hputs (a : α) : (Change.insertAll items : Change key).Puts a ↔
      a ∈ (ofList items : KeyedSet key).toList := mem_ofList_iff.symm
  simp only [hputs]
  rw [← contains_iff, contains_ofList, List.mem_map]

/-- After one change, a set holds what is put in, and what it held at the keys that the change does
not decide about. -/
theorem mem_apply (c : Change key) {a : α} :
    a ∈ (c.apply s).toList ↔ c.Puts a ∨ a ∈ s.toList ∧ ¬ c.Decides (key a) := by
  cases c with
  | insert b =>
    rw [Change.apply, mem_insert]
    simp [Change.Decides, Change.Puts, Change.Clears, eq_comm]
  | erase k =>
    rw [Change.apply, mem_erase]
    simp [Change.Decides, Change.Puts, Change.Clears]
  | insertAll items =>
    rw [Change.apply, mem_insertAll_iff, Change.Decides, exists_puts_insertAll]
    simp [Change.Puts, Change.Clears]
  | union t =>
    rw [Change.apply, mem_union]
    simp [Change.Decides, Change.Puts, Change.Clears]
  | diff t =>
    rw [Change.apply, mem_diff]
    simp [Change.Decides, Change.Puts, Change.Clears]
  | inter t =>
    rw [Change.apply, mem_inter]
    simp [Change.Decides, Change.Puts, Change.Clears]

/-- A set that changes have made holds the items that were put in last. -/
theorem mem_madeBy {changes : List (Change key)} {a : α} :
    a ∈ (madeBy changes).toList ↔ LastPut changes a := by
  -- From the end: what the last change does not decide about was there before it.
  induction changes using List.reverseRecOn with
  | nil =>
    exact ⟨fun ha => (nomatch ha), fun ⟨_, _, hput⟩ => absurd hput List.not_exists_split_nil⟩
  | append_singleton changes c ih =>
    rw [madeBy_concat, mem_apply, lastPut_concat, ih]

end

/-! ### Changes of a map -/

/-- An entry has an item of the set, at its key. -/
theorem mem_entries [Ord κ] {key : α → κ} {s : KeyedSet key} {entry : κ × α} :
    entry ∈ s.entries.toList ↔ entry.2 ∈ s.toList ∧ key entry.2 = entry.1 := by
  rw [entries, List.mem_map]
  constructor
  · rintro ⟨a, ha, rfl⟩
    exact ⟨ha, rfl⟩
  · intro ⟨ha, hkey⟩
    exact ⟨entry.2, ha, by rw [hkey]⟩

/-- Keeping the items with some keys keeps their entries. -/
theorem entries_filter [Ord κ] [Std.TransOrd κ] {key : α → κ} (s : KeyedSet key)
    (p : κ → Bool) :
    (s.filter fun a => p (key a)).entries = s.entries.filter fun entry => p entry.1 := by
  refine eq_of_mem_iff fun entry => ?_
  rw [mem_entries, mem_filter, mem_filter, mem_entries]
  constructor
  · rintro ⟨⟨hmem, hp⟩, hkey⟩
    exact ⟨⟨hmem, hkey⟩, hkey ▸ hp⟩
  · rintro ⟨⟨hmem, hkey⟩, hp⟩
    exact ⟨⟨hmem, hkey ▸ hp⟩, hkey⟩

section
variable [Ord κ] [Std.TransOrd κ] [Std.LawfulEqOrd κ] {key : α → κ} {s : KeyedSet key}

/-- Adding an item adds its entry. -/
theorem entries_insert (s : KeyedSet key) (a : α) :
    (s.insert a).entries = s.entries.put (key a) a := by
  refine eq_of_mem_iff fun entry => ?_
  rw [SortedMap.put, KeyedSet.mem_insert, mem_entries, mem_entries, mem_insert, Prod.ext_iff]
  constructor
  · rintro ⟨heq | ⟨hmem, hne⟩, hkey⟩
    · exact .inl ⟨by rw [← hkey, heq], heq⟩
    · exact .inr ⟨⟨hmem, hkey⟩, hkey ▸ hne⟩
  · rintro (⟨hkey, heq⟩ | ⟨⟨hmem, hkey⟩, hne⟩)
    · exact ⟨.inl heq, by rw [heq, hkey]⟩
    · exact ⟨.inr ⟨hmem, hkey ▸ hne⟩, hkey⟩

/-- Adding several items adds their entries. -/
theorem entries_insertAll (s : KeyedSet key) (items : List α) :
    (s.insertAll items).entries = items.foldl (fun m a => m.put (key a) a) s.entries := by
  induction items generalizing s with
  | nil => rfl
  | cons a items ih =>
    rw [List.foldl_cons, ← entries_insert]
    exact ih (s.insert a)

/-- A change of a set is the same change of its entries. -/
theorem entries_apply (c : Change key) : (c.apply s).entries = c.applyMap s.entries := by
  cases c with
  | insert a => exact entries_insert s a
  | erase k => exact entries_filter s fun k' => compare k' k != .eq
  | insertAll items => exact entries_insertAll s items
  | union t => exact entries_insertAll s t.toList
  | diff t => exact entries_filter s fun k => !t.contains k
  | inter t => exact entries_filter s t.contains

/-- The map that changes make has the items of the set that they make, each at its key. -/
theorem mapMadeBy_eq (changes : List (Change key)) :
    mapMadeBy changes = (madeBy changes).entries := by
  have hempty : (empty : SortedMap κ α) = (empty : KeyedSet key).entries := rfl
  rw [mapMadeBy, hempty]
  exact List.foldl_hom entries fun s c => (entries_apply c).symm

end

/-! ### What changes make -/

/-- A set that any changes have made is the map from each key to the item that was put there last
and has not been taken out.  This item is found at the key, and a map in which the same changes are
made stores it there.  The keys ascend and are those of the items, and an insertion tells whether a
key is new.  Of two sets, a union keeps the item of the second one on a shared key, an intersection
and a difference keep the items of the first one by the keys of the second one, and a part is told
by its keys. -/
theorem madeBy_represents [Ord κ] [Std.TransOrd κ] [Std.LawfulEqOrd κ] {key : α → κ}
    (changes : List (Change key)) :
    (∀ k a, (madeBy changes).find? k = some a ↔ LastPut changes a ∧ key a = k) ∧
      (mapMadeBy changes).toList = (madeBy changes).toList.map (fun a => (key a, a)) ∧
      (madeBy changes).keys.Pairwise (fun k k' => compare k k' = .lt) ∧
      (madeBy changes).keys = (madeBy changes).toList.map key ∧
      (∀ a, ((madeBy changes).insertNew a).2 = madeBy (changes ++ [.insert a]) ∧
        (((madeBy changes).insertNew a).1 = true ↔ key a ∉ (madeBy changes).keys)) ∧
      ∀ t : KeyedSet key,
        (∀ a, a ∈ ((madeBy changes).union t).toList ↔
          a ∈ t.toList ∨ a ∈ (madeBy changes).toList ∧ key a ∉ t.keys) ∧
        (∀ a, a ∈ ((madeBy changes).inter t).toList ↔
          a ∈ (madeBy changes).toList ∧ key a ∈ t.keys) ∧
        (∀ a, a ∈ ((madeBy changes).diff t).toList ↔
          a ∈ (madeBy changes).toList ∧ key a ∉ t.keys) ∧
        ((madeBy changes).subset t = true ↔ ∀ k ∈ (madeBy changes).keys, k ∈ t.keys) := by
  refine ⟨fun k a => ?_, ?_, ?_, rfl, fun a => ⟨?_, insertNew_eq_true_iff⟩, fun t => ?_⟩
  · rw [find?_eq_some_iff, mem_madeBy]
  · rw [mapMadeBy_eq]
    rfl
  · exact List.pairwise_map.2 (madeBy changes).ascending
  · rw [madeBy_concat]
    rfl
  · exact ⟨fun a => mem_union, fun a => mem_inter, fun a => mem_diff, subset_iff⟩

/-- An item is put in, replaced, and left alone by a union and by a removal at other keys. -/
def replacedKit : List (Change (Prod.fst : Identity × Int → Identity)) :=
  [.insert (⟨"kit"⟩, 1), .insertAll [(⟨"app"⟩, 2), (⟨"kit"⟩, 3)],
    .union (ofList [(⟨"app"⟩, 4), (⟨"log"⟩, 5)]), .erase ⟨"log"⟩]

/-- The item that was put in last is found, and the one that was there before it is not; a key that
was taken out is new. -/
theorem madeBy_represents_replacedKit :
    Std.TransOrd Identity ∧ Std.LawfulEqOrd Identity ∧
      LastPut replacedKit (⟨"kit"⟩, 3) ∧ ¬ LastPut replacedKit (⟨"kit"⟩, 1) ∧
      (mapMadeBy replacedKit).toList = [(⟨"app"⟩, ⟨"app"⟩, 4), (⟨"kit"⟩, ⟨"kit"⟩, 3)] ∧
      ((madeBy replacedKit).insertNew (⟨"log"⟩, 6)).1 = true := by
  obtain ⟨hfind, hmap, -, -, hinsert, -⟩ := madeBy_represents replacedKit
  have hmade : (madeBy replacedKit).toList = [(⟨"app"⟩, 4), (⟨"kit"⟩, 3)] := by decide +kernel
  have hkit : (madeBy replacedKit).find? ⟨"kit"⟩ = some (⟨"kit"⟩, 3) := by decide +kernel
  refine ⟨inferInstance, inferInstance, ((hfind _ _).1 hkit).1, fun hlast => ?_, ?_, ?_⟩
  · have hfirst := (hfind ⟨"kit"⟩ (⟨"kit"⟩, 1)).2 ⟨hlast, rfl⟩
    rw [hkit] at hfirst
    exact absurd hfirst (by decide)
  · rw [hmap, hmade]
    rfl
  · rw [(hinsert _).2, keys, hmade]
    decide

end ModuleGraph.KeyedSet
