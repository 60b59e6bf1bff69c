/-! # Finite sets of keyed items

A `KeyedSet key` holds items that are told apart by `key`, at most one for each key, and lists
them in ascending key order.  The order is a proof field, so two sets with the same items are
equal.  Plain sets (`SortedSet`) and finite maps (`SortedMap`) are the two special cases in which
the key is the item itself or the first component of a pair.

The view of a set is `toList`; `find?` looks an item up by its key, `insert` replaces the item
that had the same key. -/

namespace ModuleGraph

variable {α κ ν : Type}

/-- Places `a` in an ascending list, instead of the item with the same key if there is one. -/
def insertByKey [Ord κ] (key : α → κ) (a : α) : List α → List α
  | [] => [a]
  | b :: rest =>
    match compare (key a) (key b) with
    | .lt => a :: b :: rest
    | .eq => a :: rest
    | .gt => b :: insertByKey key a rest

theorem mem_insertByKey [Ord κ] {key : α → κ} {a x : α} {l : List α}
    (h : x ∈ insertByKey key a l) : x = a ∨ x ∈ l := by
  induction l with
  | nil => simpa [insertByKey] using h
  | cons b rest ih =>
    rw [insertByKey] at h
    split at h
    · simpa using h
    · rcases List.mem_cons.1 h with h | h
      · exact .inl h
      · exact .inr (List.mem_cons_of_mem _ h)
    · rcases List.mem_cons.1 h with h | h
      · exact .inr (by simp [h])
      · exact (ih h).imp_right (List.mem_cons_of_mem _)

/-- Ascending lists stay ascending. -/
theorem pairwise_insertByKey [Ord κ] [Std.TransOrd κ] {key : α → κ} (a : α) {l : List α}
    (h : l.Pairwise fun x y => compare (key x) (key y) = .lt) :
    (insertByKey key a l).Pairwise fun x y => compare (key x) (key y) = .lt := by
  induction l with
  | nil => simp [insertByKey]
  | cons b rest ih =>
    obtain ⟨hb, hrest⟩ := List.pairwise_cons.1 h
    rw [insertByKey]
    split
    · next hlt =>
      -- `a` goes before `b`, which is before the rest.
      refine List.pairwise_cons.2 ⟨fun y hy => ?_, h⟩
      rcases List.mem_cons.1 hy with rfl | hy
      · exact hlt
      · exact Std.TransCmp.lt_trans hlt (hb y hy)
    · next heq =>
      -- `a` takes the place of `b`, whose key it has.
      refine List.pairwise_cons.2 ⟨fun y hy => ?_, hrest⟩
      exact Std.TransCmp.lt_of_eq_of_lt heq (hb y hy)
    · next hgt =>
      -- `a` goes somewhere behind `b`.
      refine List.pairwise_cons.2 ⟨fun y hy => ?_, ih hrest⟩
      rcases mem_insertByKey hy with rfl | hy
      · exact Std.OrientedCmp.gt_iff_lt.1 hgt
      · exact hb y hy

/-- Items told apart by `key`, in ascending key order. -/
structure KeyedSet [Ord κ] (key : α → κ) where
  toList : List α
  ascending : toList.Pairwise fun a b => compare (key a) (key b) = .lt

namespace KeyedSet

section
variable [Ord κ] {key : α → κ}

@[ext] theorem ext {s t : KeyedSet key} (h : s.toList = t.toList) : s = t := by
  cases s; cases t; simp_all

instance [DecidableEq α] : DecidableEq (KeyedSet key) := fun s t =>
  if h : s.toList = t.toList then .isTrue (ext h) else .isFalse fun e => h (e ▸ rfl)

/-- No items. -/
def empty : KeyedSet key := ⟨[], List.Pairwise.nil⟩

instance : Inhabited (KeyedSet key) := ⟨empty⟩

/-- The item with key `k`. -/
def find? (s : KeyedSet key) (k : κ) : Option α :=
  s.toList.find? fun a => compare (key a) k == .eq

/-- Whether some item has key `k`. -/
def contains (s : KeyedSet key) (k : κ) : Bool :=
  s.toList.any fun a => compare (key a) k == .eq

/-- The keys, ascending. -/
def keys (s : KeyedSet key) : List κ := s.toList.map key

/-- The number of items. -/
def size (s : KeyedSet key) : Nat := s.toList.length

def isEmpty (s : KeyedSet key) : Bool := s.toList.isEmpty

/-- The items that satisfy `p`. -/
def filter (p : α → Bool) (s : KeyedSet key) : KeyedSet key :=
  ⟨s.toList.filter p, s.ascending.filter p⟩

/-- All items but the one with key `k`. -/
def erase (s : KeyedSet key) (k : κ) : KeyedSet key :=
  s.filter fun a => compare (key a) k != .eq

/-- The items whose key is no key of `t`. -/
def diff (s t : KeyedSet key) : KeyedSet key := s.filter fun a => !t.contains (key a)

/-- The items whose key is a key of `t` too. -/
def inter (s t : KeyedSet key) : KeyedSet key := s.filter fun a => t.contains (key a)

/-- Whether every key of `s` is a key of `t`. -/
def subset (s t : KeyedSet key) : Bool := s.keys.all t.contains

/-- Whether no key of `s` is a key of `t`. -/
def disjoint (s t : KeyedSet key) : Bool := !s.keys.any t.contains

end

section
variable [Ord κ] [Std.TransOrd κ] {key : α → κ}

/-- Adds `a`, instead of the item with the same key if there is one. -/
def insert (s : KeyedSet key) (a : α) : KeyedSet key :=
  ⟨insertByKey key a s.toList, pairwise_insertByKey a s.ascending⟩

/-- Adds `a` like `insert`, and tells first whether its key is new. -/
def insertNew (s : KeyedSet key) (a : α) : Bool × KeyedSet key :=
  (!s.contains (key a), s.insert a)

/-- Adds the items of a list from left to right. -/
def insertAll (s : KeyedSet key) (items : List α) : KeyedSet key := items.foldl insert s

/-- The set of the items of a list; of two with the same key the later one stays. -/
def ofList (items : List α) : KeyedSet key := empty.insertAll items

/-- All items of both; on a shared key the item of `t` stays. -/
def union (s t : KeyedSet key) : KeyedSet key := s.insertAll t.toList

end

end KeyedSet

/-- Finite sets, listed in ascending order. -/
abbrev SortedSet (α : Type) [Ord α] := KeyedSet (id : α → α)

/-- Finite maps, listed in ascending key order. -/
abbrev SortedMap (κ ν : Type) [Ord κ] := KeyedSet (Prod.fst : κ × ν → κ)

namespace SortedMap

/-- The value at `k`. -/
def get? [Ord κ] (m : SortedMap κ ν) (k : κ) : Option ν := (m.find? k).map (·.2)

/-- The value at `k`, or `default` where the map has none. -/
def getD [Ord κ] (m : SortedMap κ ν) (k : κ) (default : ν) : ν := (m.get? k).getD default

/-- Gives `k` the value `v`. -/
def put [Ord κ] [Std.TransOrd κ] (m : SortedMap κ ν) (k : κ) (v : ν) : SortedMap κ ν :=
  m.insert (k, v)

/-- Changes the value at `k`, taking `default` where the map has none. -/
def update [Ord κ] [Std.TransOrd κ] (m : SortedMap κ ν) (k : κ) (default : ν) (f : ν → ν) :
    SortedMap κ ν :=
  m.put k (f (m.getD k default))

end SortedMap

end ModuleGraph
