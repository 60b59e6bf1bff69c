import Mathlib.Algebra.BigOperators.Group.List.Basic
import Mathlib.Algebra.GroupWithZero.Nat
import Mathlib.Data.List.Forall2
import Mathlib.Data.List.Nodup
import Mathlib.Logic.Relation

/-!
# List lemmas

Lemmas on lists that loops are about: sums over filtered lists, whose fall is the measure of a
search that enters every item once, lists whose items stand for each other one by one, joined
lists, the first item with a property, items that come after one another, what stands where when one
more item comes behind, lists of parts whose keys name the part, and sorted lists.
-/

namespace List

/-- A filter that lets fewer items pass gives a smaller sum. -/
theorem sum_filter_le {α : Type} (l : List α) (weight : α → Nat) (p q : α → Bool)
    (hqp : ∀ a ∈ l, q a = true → p a = true) :
    ((l.filter q).map weight).sum ≤ ((l.filter p).map weight).sum := by
  induction l with
  | nil => simp
  | cons b l ih =>
    have hle := ih fun a h => hqp a (by simp [h])
    have hb := hqp b (by simp)
    cases hqb : q b <;> cases hpb : p b <;> simp_all
    omega

/-- If an item passes the wider filter and not the narrower one, the sums differ by its weight. -/
theorem sum_filter_add_le {α : Type} (l : List α) (weight : α → Nat) (p q : α → Bool)
    (hqp : ∀ a ∈ l, q a = true → p a = true) (a : α) (ha : a ∈ l) (hp : p a = true)
    (hq : q a = false) :
    ((l.filter q).map weight).sum + weight a ≤ ((l.filter p).map weight).sum := by
  induction l with
  | nil => simp at ha
  | cons b l ih =>
    have hqp' : ∀ a ∈ l, q a = true → p a = true := fun a h => hqp a (by simp [h])
    rcases mem_cons.1 ha with rfl | ha
    · -- The item stands in front: the sum over the rest does not grow, and its weight is gone.
      have hle := sum_filter_le l weight p q hqp'
      simp only [filter_cons, hp, hq, if_true, Bool.false_eq_true, if_false, map_cons, sum_cons]
      omega
    · have hle := ih hqp' ha
      have hb := hqp b (by simp)
      cases hqb : q b <;> cases hpb : p b <;> simp_all <;> omega

/-! ### Items that stand for each other -/

/-- Every item of the first list stands for one of the second. -/
theorem Forall₂.exists_of_mem_left {α β : Type} {r : α → β → Prop} {l : List α} {l' : List β}
    (h : Forall₂ r l l') {a : α} (ha : a ∈ l) : ∃ b ∈ l', r a b := by
  induction h with
  | nil => exact nomatch ha
  | cons hab _ ih =>
    rcases mem_cons.1 ha with rfl | ha
    · exact ⟨_, by simp, hab⟩
    · obtain ⟨b, hb, hr⟩ := ih ha
      exact ⟨b, by simp [hb], hr⟩

/-- Every item of the second list stands for one of the first. -/
theorem Forall₂.exists_of_mem_right {α β : Type} {r : α → β → Prop} {l : List α} {l' : List β}
    (h : Forall₂ r l l') {b : β} (hb : b ∈ l') : ∃ a ∈ l, r a b :=
  Forall₂.exists_of_mem_left (r := fun b a => r a b) (Forall₂.flip h) hb

/-- If something stands for each item, a list does for all of them. -/
theorem exists_forall₂ {α β : Type} {r : α → β → Prop} {l : List α}
    (h : ∀ a ∈ l, ∃ b, r a b) : ∃ l', Forall₂ r l l' := by
  induction l with
  | nil => exact ⟨[], .nil⟩
  | cons a l ih =>
    obtain ⟨b, hb⟩ := h a mem_cons_self
    obtain ⟨l', hl'⟩ := ih fun x hx => h x (mem_cons_of_mem a hx)
    exact ⟨b :: l', .cons hb hl'⟩

/-- Lists that stand for one another across a third one. -/
theorem Forall₂.comp {α β γ : Type} {r : α → β → Prop} {s : β → γ → Prop} {t : α → γ → Prop}
    {l : List α} {l' : List β} {l'' : List γ} (h : Forall₂ r l l') (h' : Forall₂ s l' l'')
    (hrs : ∀ a b c, r a b → s b c → t a c) : Forall₂ t l l'' := by
  induction h generalizing l'' with
  | nil =>
    cases h'
    exact .nil
  | cons hab _ ih =>
    cases h' with
    | cons hbc hrest => exact .cons (hrs _ _ _ hab hbc) (ih hrest)

/-- Lists are equal under views that agree on items which stand for each other. -/
theorem Forall₂.map_eq {α β γ : Type} {r : α → β → Prop} {l : List α} {l' : List β}
    (h : Forall₂ r l l') {f : α → γ} {g : β → γ} (hfg : ∀ a b, r a b → f a = g b) :
    l.map f = l'.map g := by
  induction h with
  | nil => rfl
  | cons hab _ ih => rw [map_cons, map_cons, hfg _ _ hab, ih]

/-- Of the items of one list, those that pass two filters stand for each other in turn if what
passes the first one passes the second. -/
theorem sublistForall₂_filterMap {α β γ : Type} {r : β → γ → Prop} {f : α → Option β}
    {g : α → Option γ} {l : List α} (h : ∀ a ∈ l, ∀ b, f a = some b → ∃ c, g a = some c ∧ r b c) :
    SublistForall₂ r (l.filterMap f) (l.filterMap g) := by
  induction l with
  | nil => exact .nil
  | cons a l ih =>
    have hrest := ih fun x hx => h x (by simp [hx])
    cases hf : f a with
    | none =>
      -- The second filter may keep what the first one drops.
      rw [filterMap_cons_none hf]
      cases hg : g a with
      | none => rwa [filterMap_cons_none hg]
      | some c =>
        rw [filterMap_cons_some hg]
        exact .cons_right hrest
    | some b =>
      -- What the first one keeps, the second one keeps.
      obtain ⟨c, hg, hbc⟩ := h a (by simp) b hf
      rw [filterMap_cons_some hf, filterMap_cons_some hg]
      exact .cons hbc hrest

/-- What passes a filter comes in turn among what passes another one that gives the same for it. -/
theorem filterMap_sublist_filterMap {α β : Type} {f g : α → Option β} {l : List α}
    (h : ∀ a ∈ l, ∀ b, f a = some b → g a = some b) : l.filterMap f <+ l.filterMap g := by
  have hstand : SublistForall₂ (· = ·) (l.filterMap f) (l.filterMap g) :=
    sublistForall₂_filterMap fun a ha b hb => ⟨b, h a ha b hb, rfl⟩
  obtain ⟨l', heq, hsub⟩ := sublistForall₂_iff.1 hstand
  rw [forall₂_eq_eq_eq] at heq
  exact heq ▸ hsub

/-- A list whose items stand for some of another one is not longer. -/
theorem SublistForall₂.length_le {α β : Type} {r : α → β → Prop} {l : List α} {l' : List β}
    (h : SublistForall₂ r l l') : l.length ≤ l'.length := by
  obtain ⟨l'', hstand, hsub⟩ := sublistForall₂_iff.1 h
  exact hstand.length_eq ▸ hsub.length_le

/-- A list is read if every item is. -/
theorem mapM_eq_some {α β : Type} {f : α → Option β} {l : List α} {l' : List β} :
    l.mapM f = some l' ↔ Forall₂ (fun a b => f a = some b) l l' := by
  induction l generalizing l' with
  | nil => simp [eq_comm]
  | cons a l ih =>
    rw [mapM_cons, forall₂_cons_left_iff]
    simp only [Option.bind_eq_bind, Option.bind_eq_some_iff, Option.pure_def, Option.some.injEq, ih]
    constructor
    · rintro ⟨b, hb, bs, hbs, heq⟩
      exact ⟨b, bs, hb, hbs, heq.symm⟩
    · rintro ⟨b, bs, hb, hbs, heq⟩
      exact ⟨b, hb, bs, hbs, heq.symm⟩

/-- A list is read from what its items are written as. -/
theorem mapM_map_eq_some {α β : Type} {f : β → Option α} {g : α → β} {l : List α}
    (h : ∀ a ∈ l, f (g a) = some a) : (l.map g).mapM f = some l :=
  mapM_eq_some.2 (forall₂_map_left_iff.2 (forall₂_same.2 h))

/-! ### Joined lists -/

/-- What holds of the separator and of the pieces holds of what they are joined to. -/
theorem forall_mem_intercalate {α : Type} {p : α → Prop} {sep : List α} {pieces : List (List α)}
    (hsep : ∀ a ∈ sep, p a) (h : ∀ piece ∈ pieces, ∀ a ∈ piece, p a) :
    ∀ a ∈ sep.intercalate pieces, p a := by
  induction pieces with
  | nil => simp
  | cons piece pieces ih =>
    have hpiece : ∀ a ∈ piece, p a := h piece (by simp)
    cases pieces with
    | nil => simpa using hpiece
    | cons next pieces =>
      have hrest := ih fun piece hmem => h piece (mem_cons_of_mem _ hmem)
      intro a ha
      rw [intercalate_cons_cons, mem_append, mem_append] at ha
      rcases ha with (ha | ha) | ha
      · exact hpiece a ha
      · exact hsep a ha
      · exact hrest a ha

/-! ### First items -/

/-- An item is the first one in a list that has a property. -/
def FirstWith {α : Type} (l : List α) (p : α → Prop) (a : α) : Prop :=
  p a ∧ ∃ before after, l = before ++ a :: after ∧ ∀ b ∈ before, ¬ p b

/-- The first item with a property is in the list. -/
theorem FirstWith.mem {α : Type} {l : List α} {p : α → Prop} {a : α} (h : l.FirstWith p a) :
    a ∈ l := by
  obtain ⟨-, before, after, rfl, -⟩ := h
  simp

/-- A search finds the first item that passes. -/
theorem firstWith_of_find? {α : Type} {l : List α} {q : α → Bool} {p : α → Prop} {a : α}
    (hqp : ∀ b, q b = true ↔ p b) (h : l.find? q = some a) : l.FirstWith p a := by
  obtain ⟨hq, before, after, hl, hbefore⟩ := find?_eq_some_iff_append.1 h
  refine ⟨(hqp a).1 hq, before, after, hl, fun b hb hp => ?_⟩
  have hnot := hbefore b hb
  rw [(hqp b).2 hp] at hnot
  exact nomatch hnot

/-- Where keys are distinct, the item that is found under a key is the one that has it. -/
theorem find?_key_eq_some_iff {α κ : Type} [BEq κ] [LawfulBEq κ] {l : List α} {key : α → κ}
    (hl : (l.map key).Nodup) {k : κ} {a : α} :
    (l.find? fun b => key b == k) = some a ↔ a ∈ l ∧ key a = k := by
  constructor
  · intro hfound
    exact ⟨mem_of_find?_eq_some hfound, by simpa using find?_some hfound⟩
  · rintro ⟨ha, rfl⟩
    cases hfound : l.find? fun b => key b == key a with
    | none => exact absurd (beq_self_eq_true _) (find?_eq_none.1 hfound a ha)
    | some b =>
      have hkey : key b = key a := by simpa using find?_some hfound
      rw [inj_on_of_nodup_map hl (mem_of_find?_eq_some hfound) ha hkey]

/-- A search for a result finds it at the first item that has one. -/
theorem exists_firstWith_of_findSome? {α β : Type} {l : List α} {f : α → Option β} {p : α → Prop}
    {b : β} (hfp : ∀ a, f a ≠ none ↔ p a) (h : l.findSome? f = some b) :
    ∃ a, l.FirstWith p a ∧ f a = some b := by
  obtain ⟨before, a, after, hl, ha, hbefore⟩ := findSome?_eq_some_iff.1 h
  have hsome : f a ≠ none := by simp [ha]
  exact ⟨a, ⟨(hfp a).1 hsome, before, after, hl, fun x hx hp => (hfp x).2 hp (hbefore x hx)⟩, ha⟩

/-- A chain leads from its first item to its last one in one or more steps. -/
theorem transGen_of_isChain {α : Type} {r : α → α → Prop} {l : List α} {a b : α}
    (h : (a :: (l ++ [b])).IsChain r) : Relation.TransGen r a b := by
  induction l generalizing a with
  | nil => exact .single (isChain_cons_cons.1 h).1
  | cons c l ih =>
    obtain ⟨hac, hrest⟩ := isChain_cons_cons.1 h
    exact .head hac (ih hrest)

/-! ### Items behind each other -/

/-- In a list with no item twice, what comes after an item is what stands behind it. -/
theorem pair_sublist_iff {α : Type} {above below : List α} {a b : α}
    (h : (above ++ a :: below).Nodup) : [a, b] <+ above ++ a :: below ↔ b ∈ below := by
  constructor
  · intro hsub
    obtain ⟨front, back, heq, hfront, hback⟩ := sublist_append_iff.1 hsub
    cases front with
    | nil =>
      rw [nil_append] at heq
      rw [← heq] at hback
      exact singleton_sublist.1 (cons_sublist_cons.1 hback)
    | cons c front =>
      -- The item is not in the list above itself.
      obtain ⟨rfl, -⟩ := cons_eq_cons.1 heq
      obtain ⟨-, -, hdisjoint⟩ := nodup_append.1 h
      exact (hdisjoint a (hfront.subset mem_cons_self) a mem_cons_self rfl).elim
  · intro hb
    exact ((singleton_sublist.2 hb).cons_cons a).trans (sublist_append_right above _)

/-! ### One more item at the end -/

/-- No item stands in the empty list. -/
theorem not_exists_split_nil {α : Type} {a : α} {p : List α → List α → Prop} :
    ¬ ∃ before after, [] = before ++ a :: after ∧ p before after := by
  rintro ⟨before, after, heq, -⟩
  exact absurd heq.symm (append_ne_nil_of_right_ne_nil before (cons_ne_nil a after))

/-- Where an item stands in a list with one more item at the end: it is that item, or it stands in
the list before. -/
theorem exists_split_concat {α : Type} {l : List α} {a b : α} {p : List α → List α → Prop} :
    (∃ before after, l ++ [b] = before ++ a :: after ∧ p before after) ↔
      a = b ∧ p l [] ∨ ∃ before after, l = before ++ a :: after ∧ p before (after ++ [b]) := by
  constructor
  · rintro ⟨before, after, heq, hp⟩
    -- Whether something stands behind the item decides whether it is the last one.
    rcases eq_nil_or_concat after with rfl | ⟨rest, c, rfl⟩
    · obtain ⟨rfl, hlast⟩ := append_inj' heq rfl
      exact .inl ⟨(singleton_inj.1 hlast).symm, hp⟩
    · rw [concat_eq_append] at heq hp
      rw [← cons_append, ← append_assoc] at heq
      obtain ⟨rfl, hlast⟩ := append_inj' heq rfl
      exact .inr ⟨before, rest, rfl, singleton_inj.1 hlast ▸ hp⟩
  · rintro (⟨rfl, hp⟩ | ⟨before, after, rfl, hp⟩)
    · exact ⟨l, [], rfl, hp⟩
    · exact ⟨before, after ++ [b], by simp, hp⟩

/-- What stands at a place of a list with one more item at the end. -/
theorem getElem?_concat_eq_some {α : Type} {l : List α} {a b : α} {i : Nat} :
    (l ++ [b])[i]? = some a ↔ l[i]? = some a ∨ i = l.length ∧ a = b := by
  grind

/-! ### Items in parts -/

/-- Some item of a list of parts has a property exactly if some item of a part has it. -/
theorem exists_mem_flatMap {α β : Type} {l : List α} {f : α → List β} {p : β → Prop} :
    (∃ b ∈ l.flatMap f, p b) ↔ ∃ a ∈ l, ∃ b ∈ f a, p b := by
  simp only [mem_flatMap]
  constructor
  · rintro ⟨b, ⟨a, ha, hb⟩, hp⟩
    exact ⟨a, ha, b, hb, hp⟩
  · rintro ⟨a, ha, b, hb, hp⟩
    exact ⟨b, ⟨a, ha, hb⟩, hp⟩

/-- Where every key names its part, no key comes twice in a list of parts exactly if none does in
a part. -/
theorem nodup_map_flatMap_iff {α β κ ι : Type} {l : List α} {f : α → List β} {key : β → κ}
    (part : κ → ι) {name : α → ι} (hl : (l.map name).Nodup)
    (hpart : ∀ a ∈ l, ∀ b ∈ f a, part (key b) = name a) :
    ((l.flatMap f).map key).Nodup ↔ ∀ a ∈ l, ((f a).map key).Nodup := by
  rw [map_flatMap, nodup_flatMap]
  refine and_iff_left ((pairwise_map.1 hl).imp_of_mem fun {a a'} ha ha' hne k hk hk' => ?_)
  -- Keys in two parts name both of them.
  obtain ⟨b, hb, rfl⟩ := mem_map.1 hk
  obtain ⟨b', hb', heq⟩ := mem_map.1 hk'
  have hsame : name a = name a' := by rw [← hpart a ha b hb, ← heq, hpart a' ha' b' hb']
  exact hne hsame

/-! ### Sorted lists -/

/-- An item is alone in a list where items that follow each other are related, but no two items
are. -/
theorem eq_singleton_of_pairwise {α : Type} {R : α → α → Prop} {l : List α} {a : α}
    (h : l.Pairwise R) (ha : a ∈ l) (hnone : ∀ b ∈ l, ∀ c ∈ l, ¬ R b c) : l = [a] := by
  match l with
  | [b] => rw [mem_singleton.1 ha]
  | b :: c :: rest =>
    exact absurd (rel_of_pairwise_cons h mem_cons_self) (hnone b (by simp) c (by simp))

/-- Sorting by keys that do not repeat gives ascending keys. -/
theorem pairwise_lt_mergeSort {α κ : Type} [Ord κ] [Std.TransOrd κ] [Std.LawfulEqOrd κ]
    {key : α → κ} {l : List α} (h : (l.map key).Nodup) :
    (l.mergeSort fun a b => compare (key a) (key b) != .gt).Pairwise
      fun a b => compare (key a) (key b) = .lt := by
  -- `mergeSort` is known to sort for total and transitive orders, which `isLE` is known to be.
  have hle (a b : α) : (compare (key a) (key b) != .gt) = (compare (key a) (key b)).isLE := by
    cases compare (key a) (key b) <;> rfl
  have htrans (a b c : α) (hab : (compare (key a) (key b)).isLE = true)
      (hbc : (compare (key b) (key c)).isLE = true) : (compare (key a) (key c)).isLE = true :=
    Std.TransCmp.isLE_trans hab hbc
  have htotal (a b : α) :
      ((compare (key a) (key b)).isLE || (compare (key b) (key a)).isLE) = true := by
    cases hab : compare (key a) (key b) with
    | lt => rfl
    | eq => rfl
    | gt =>
      rw [Std.OrientedCmp.lt_of_gt hab]
      rfl
  simp only [hle]
  have hsorted := pairwise_mergeSort htrans htotal l
  have hkeys := pairwise_map.1 (((mergeSort_perm l
    fun a b => (compare (key a) (key b)).isLE).map key).nodup_iff.2 h)
  -- Sorted gives `≤` and the distinct keys rule out `=`.
  refine (hsorted.and hkeys).imp fun {a b} ⟨hab, hne⟩ => ?_
  cases hcmp : compare (key a) (key b) with
  | lt => rfl
  | eq => exact absurd (Std.LawfulEqOrd.eq_of_compare hcmp) hne
  | gt =>
    rw [hcmp] at hab
    exact nomatch hab

end List
