import ModuleGraph.Text.EditDistance
import Mathlib.Data.List.Infix
import Mathlib.Order.Bounds.Basic
import Mathlib.Order.MinMax

/-!
# The edit distance

An edit puts in one item, takes one out, or puts one in the place of another, anywhere in a list.
The recursion gives the least number of edits that turn one list into another: it is attained, and
no edit brings two lists nearer by more than one.  Edits may be done backwards and on reversed
lists, so the distance is symmetric, and the recursion may as well take the last items off.  In this
form it is the rule by which a table is filled: a row holds the distances between one prefix of the
first list and all prefixes of the second.

## Key results

- `editDistance_isLeast`: the recursion gives the least number of edits
- `editDistance_concat`: the recursion on the last items
- `nextTableRow_eq`, `foldl_nextTableRow`: what the cells of a row hold
- `tableDistance_spec`: the distance by rows is the least number of edits, and a metric
-/

namespace ModuleGraph.Text

variable {α : Type}

/-- One edit. -/
inductive Edit : List α → List α → Prop
  | insertion (front back : List α) (b : α) : Edit (front ++ back) (front ++ b :: back)
  | deletion (front back : List α) (a : α) : Edit (front ++ a :: back) (front ++ back)
  | substitution (front back : List α) (a b : α) :
      Edit (front ++ a :: back) (front ++ b :: back)

/-- A number of edits, one after the other. -/
inductive Edits : Nat → List α → List α → Prop
  | nil (s : List α) : Edits 0 s s
  | cons {n : Nat} {s s' t : List α} (first : Edit s s') (rest : Edits n s' t) :
      Edits (n + 1) s t

/-! ### Edits -/

section
variable {n m : Nat} {s t u : List α}

/-- An edit behind a first item. -/
theorem Edit.behind (h : Edit s t) (c : α) : Edit (c :: s) (c :: t) := by
  cases h with
  | insertion front back b => exact .insertion (c :: front) back b
  | deletion front back a => exact .deletion (c :: front) back a
  | substitution front back a b => exact .substitution (c :: front) back a b

/-- An edit can be taken back. -/
theorem Edit.symm (h : Edit s t) : Edit t s := by
  cases h with
  | insertion front back b => exact .deletion front back b
  | deletion front back a => exact .insertion front back a
  | substitution front back a b => exact .substitution front back b a

/-- An edit of the reversed list. -/
theorem Edit.reverse (h : Edit s t) : Edit s.reverse t.reverse := by
  cases h with
  | insertion front back b => simpa using .insertion back.reverse front.reverse b
  | deletion front back a => simpa using .deletion back.reverse front.reverse a
  | substitution front back a b => simpa using .substitution back.reverse front.reverse a b

/-- Edits behind a first item. -/
theorem Edits.behind (h : Edits n s t) (c : α) : Edits n (c :: s) (c :: t) := by
  induction h with
  | nil s => exact .nil (c :: s)
  | cons first _ ih => exact .cons (first.behind c) ih

/-- Edits of the reversed list. -/
theorem Edits.reverse (h : Edits n s t) : Edits n s.reverse t.reverse := by
  induction h with
  | nil s => exact .nil s.reverse
  | cons first _ ih => exact .cons first.reverse ih

/-- Edits after others. -/
theorem Edits.append (h : Edits n s t) (h' : Edits m t u) : Edits (n + m) s u := by
  induction h with
  | nil s => rwa [Nat.zero_add]
  | cons first _ ih =>
    rw [Nat.succ_add]
    exact .cons first (ih h')

/-- Edits can be taken back, the last one first. -/
theorem Edits.symm (h : Edits n s t) : Edits n t s := by
  induction h with
  | nil s => exact .nil s
  | cons first _ ih => exact ih.append (.cons first.symm (.nil _))

/-- All items of a list can be put in, one by one. -/
theorem edits_of_nil (t : List α) : Edits t.length [] t := by
  induction t with
  | nil => exact .nil []
  | cons b t ih => exact .cons (.insertion [] [] b) (ih.behind b)

end

/-! ### The least number of edits -/

variable [DecidableEq α]

/-- To put an item in the place of another costs one edit at most. -/
theorem substitutionCost_le (a b : α) : substitutionCost a b ≤ 1 := by
  unfold substitutionCost
  split <;> omega

@[simp] theorem substitutionCost_self (a : α) : substitutionCost a a = 0 := if_pos rfl

theorem editDistance_nil_left (t : List α) : editDistance [] t = t.length := by
  simp [editDistance]

theorem editDistance_nil_right (s : List α) : editDistance s [] = s.length := by
  cases s <;> simp [editDistance]

theorem editDistance_cons (a b : α) (s t : List α) :
    editDistance (a :: s) (b :: t) =
      min (min (editDistance s (b :: t) + 1) (editDistance (a :: s) t + 1))
        (editDistance s t + substitutionCost a b) := by
  rw [editDistance]

/-- As many edits as the recursion counts turn one list into the other. -/
theorem edits_editDistance (s t : List α) : Edits (editDistance s t) s t := by
  -- As the recursion goes: on the first list for every second one, and inside on the second list.
  induction s generalizing t with
  | nil =>
    rw [editDistance_nil_left]
    exact edits_of_nil t
  | cons a s ihs =>
    induction t with
    | nil =>
      rw [editDistance_nil_right]
      exact (edits_of_nil (a :: s)).symm
    | cons b t iht =>
      have hdelete : Edits (editDistance s (b :: t) + 1) (a :: s) (b :: t) :=
        .cons (.deletion [] s a) (ihs (b :: t))
      have hinsert : Edits (editDistance (a :: s) t + 1) (a :: s) (b :: t) :=
        .cons (.insertion [] (a :: s) b) (iht.behind b)
      have hkeep : Edits (editDistance s t + substitutionCost a b) (a :: s) (b :: t) := by
        unfold substitutionCost
        split
        · next hab => exact hab ▸ (ihs t).behind a
        · exact .cons (.substitution [] s a b) ((ihs t).behind b)
      rw [editDistance_cons]
      -- Whichever of the three numbers is the least, there are so many edits.
      rcases min_choice (min (editDistance s (b :: t) + 1) (editDistance (a :: s) t + 1))
        (editDistance s t + substitutionCost a b) with h | h <;> rw [h]
      · rcases min_choice (editDistance s (b :: t) + 1) (editDistance (a :: s) t + 1)
          with h' | h' <;> rw [h']
        · exact hdelete
        · exact hinsert
      · exact hkeep

/-- A list is at no distance from itself. -/
theorem editDistance_self (s : List α) : editDistance s s = 0 := by
  induction s with
  | nil => exact editDistance_nil_left []
  | cons a s ih =>
    rw [editDistance_cons, substitutionCost_self, ih]
    omega

/-- An item more in the first list costs one edit at most. -/
theorem editDistance_cons_left_le (a : α) (s t : List α) :
    editDistance (a :: s) t ≤ editDistance s t + 1 := by
  cases t with
  | nil => simp [editDistance_nil_right]
  | cons b t =>
    rw [editDistance_cons]
    omega

/-- An item more in the second list costs one edit at most. -/
theorem editDistance_cons_right_le (b : α) (s t : List α) :
    editDistance s (b :: t) ≤ editDistance s t + 1 := by
  cases s with
  | nil => simp [editDistance_nil_left]
  | cons a s =>
    rw [editDistance_cons]
    omega

/-- An item less in the first list costs one edit at most. -/
theorem editDistance_le_cons_left (a : α) (s t : List α) :
    editDistance s t ≤ editDistance (a :: s) t + 1 := by
  induction t with
  | nil =>
    rw [editDistance_nil_right, editDistance_nil_right, List.length_cons]
    omega
  | cons b t ih =>
    have h := editDistance_cons_right_le b s t
    rw [editDistance_cons]
    omega

/-- Another first item costs one edit at most. -/
theorem editDistance_cons_congr (a b : α) (s t : List α) :
    editDistance (a :: s) t ≤ editDistance (b :: s) t + 1 := by
  induction t with
  | nil => simp [editDistance_nil_right]
  | cons c t ih =>
    have h := substitutionCost_le a c
    rw [editDistance_cons, editDistance_cons]
    omega

/-- Lists that are never further apart than by one edit are so behind a first item, too. -/
theorem editDistance_behind {s s' : List α}
    (h : ∀ t, editDistance s t ≤ editDistance s' t + 1) (c : α) (t : List α) :
    editDistance (c :: s) t ≤ editDistance (c :: s') t + 1 := by
  induction t with
  | nil =>
    have hnil := h []
    rw [editDistance_nil_right, editDistance_nil_right] at hnil ⊢
    simpa using hnil
  | cons b t ih =>
    have hcons := h (b :: t)
    have hrest := h t
    rw [editDistance_cons, editDistance_cons]
    omega

/-- One edit brings no list nearer by more than one. -/
theorem Edit.editDistance_le {s s' : List α} (h : Edit s s') (t : List α) :
    editDistance s t ≤ editDistance s' t + 1 := by
  -- The edit is at the head of what stands behind the front, which is put back item by item.
  have hbehind {back back' : List α}
      (hback : ∀ t, editDistance back t ≤ editDistance back' t + 1) (front : List α) :
      ∀ t, editDistance (front ++ back) t ≤ editDistance (front ++ back') t + 1 := by
    induction front with
    | nil => exact hback
    | cons c front ih => exact editDistance_behind ih c
  cases h with
  | insertion front back b => exact hbehind (editDistance_le_cons_left b back) front t
  | deletion front back a => exact hbehind (editDistance_cons_left_le a back) front t
  | substitution front back a b => exact hbehind (editDistance_cons_congr a b back) front t

/-- No fewer edits than the recursion counts turn one list into the other. -/
theorem Edits.editDistance_le {n : Nat} {s t : List α} (h : Edits n s t) :
    editDistance s t ≤ n := by
  induction h with
  | nil s => exact Nat.le_of_eq (editDistance_self s)
  | @cons n s s' t first _ ih =>
    calc editDistance s t ≤ editDistance s' t + 1 := first.editDistance_le t
      _ ≤ n + 1 := Nat.succ_le_succ ih

/-- The recursion gives the least number of edits. -/
theorem editDistance_isLeast (s t : List α) : IsLeast {n | Edits n s t} (editDistance s t) :=
  ⟨edits_editDistance s t, fun _ h => h.editDistance_le⟩

/-- The distance is the same in both directions. -/
theorem editDistance_comm (s t : List α) : editDistance s t = editDistance t s :=
  Nat.le_antisymm (edits_editDistance t s).symm.editDistance_le
    (edits_editDistance s t).symm.editDistance_le

/-- The way over a third list is not shorter. -/
theorem editDistance_triangle (s t u : List α) :
    editDistance s u ≤ editDistance s t + editDistance t u :=
  ((edits_editDistance s t).append (edits_editDistance t u)).editDistance_le

/-- Different lists are at some distance. -/
theorem editDistance_eq_zero_iff {s t : List α} : editDistance s t = 0 ↔ s = t := by
  constructor
  · intro hzero
    have hedits := edits_editDistance s t
    rw [hzero] at hedits
    -- Where no edit is made, the list stays as it is.
    cases hedits
    rfl
  · rintro rfl
    exact editDistance_self s

/-! ### The recursion from the end -/

/-- Reversed lists are at the same distance. -/
theorem editDistance_reverse (s t : List α) :
    editDistance s.reverse t.reverse = editDistance s t := by
  refine Nat.le_antisymm (edits_editDistance s t).reverse.editDistance_le ?_
  have hback := (edits_editDistance s.reverse t.reverse).reverse
  rw [List.reverse_reverse, List.reverse_reverse] at hback
  exact hback.editDistance_le

/-- The recursion may take the last items off instead of the first ones. -/
theorem editDistance_concat (a b : α) (s t : List α) :
    editDistance (s ++ [a]) (t ++ [b]) =
      min (min (editDistance s (t ++ [b]) + 1) (editDistance (s ++ [a]) t + 1))
        (editDistance s t + substitutionCost a b) := by
  simp only [← editDistance_reverse (s ++ [a]), ← editDistance_reverse s, List.reverse_append,
    List.reverse_singleton, List.singleton_append, editDistance_cons]

/-! ### Rows -/

/-- A row is filled from left to right: where the cells so far are those of the prefixes up to `p`,
the remaining ones become those of the longer prefixes. -/
theorem tableRow_eq (a : α) (s p t : List α) :
    tableRow a (editDistance (s ++ [a]) p) (editDistance s p) t
        (t.inits.tail.map fun q => editDistance s (p ++ q)) =
      t.inits.tail.map fun q => editDistance (s ++ [a]) (p ++ q) := by
  induction t generalizing p with
  | nil => rfl
  | cons b t ih =>
    have hinits : (b :: t).inits.tail = [b] :: t.inits.tail.map (b :: ·) := by
      cases t <;> simp
    -- The cell on the left is that of `p`, the one above it that of `p` in the row before.
    have hcell : min (min (editDistance s (p ++ [b]) + 1) (editDistance (s ++ [a]) p + 1))
        (editDistance s p + substitutionCost a b) = editDistance (s ++ [a]) (p ++ [b]) :=
      (editDistance_concat a b s p).symm
    have hrest := ih (p ++ [b])
    simp only [List.append_assoc, List.singleton_append] at hrest
    rw [hinits, List.map_cons, List.map_map, List.map_cons, List.map_map, tableRow, hcell]
    exact congrArg _ hrest

/-- If a row holds the distances between `s` and the prefixes of the second list, the next one holds
those between `s` with one more item and these prefixes. -/
theorem nextTableRow_eq (s t : List α) (a : α) :
    nextTableRow t (t.inits.map (editDistance s)) a = t.inits.map (editDistance (s ++ [a])) := by
  have hinits : t.inits = [] :: t.inits.tail := by cases t <;> simp
  have hfirst : editDistance s [] + 1 = editDistance (s ++ [a]) [] := by
    simp [editDistance_nil_right]
  have hrest := tableRow_eq a s [] t
  simp only [List.nil_append] at hrest
  rw [hinits, List.map_cons, List.map_cons, nextTableRow, hfirst]
  exact congrArg _ hrest

/-- The first row holds the distances between the empty list and the prefixes. -/
theorem range_eq_map_inits (t : List α) :
    List.range (t.length + 1) = t.inits.map (editDistance []) := by
  induction t with
  | nil => simp [editDistance_nil_left]
  | cons b t ih =>
    rw [List.length_cons, List.range_succ_eq_map, ih, List.inits_cons, List.map_cons,
      List.map_map, List.map_map]
    simp [editDistance_nil_left, Function.comp_def]

/-- After the rows of a list, the cells hold the distances between that list and the prefixes. -/
theorem foldl_nextTableRow (s t : List α) :
    s.foldl (nextTableRow t) (List.range (t.length + 1)) = t.inits.map (editDistance s) := by
  -- From the end: the last row is made from what the rows before it have left.
  induction s using List.reverseRecOn with
  | nil => exact range_eq_map_inits t
  | append_singleton s a ih =>
    rw [List.foldl_append, ih]
    exact nextTableRow_eq s t a

/-- The last cell of all is that of the whole lists. -/
theorem tableDistance_eq (s t : List α) : tableDistance s t = editDistance s t := by
  have hlast : t.inits.getLast? = some t := by
    have hhead : t.reverse.tails.head? = some t.reverse := by cases t.reverse <;> rfl
    rw [List.inits_eq_tails, List.getLast?_reverse, List.head?_map, hhead, Option.map_some,
      List.reverse_reverse]
  rw [tableDistance, foldl_nextTableRow, List.getLastD_eq_getLast?, List.getLast?_map, hlast]
  rfl

/-- The distance by rows is the one by recursion, and the least number of insertions, deletions and
substitutions that turn one list into the other.  It is the same in both directions, zero exactly
for equal lists, and not longer than the way over a third list. -/
theorem tableDistance_spec (s t : List α) :
    tableDistance s t = editDistance s t ∧
      IsLeast {n | Edits n s t} (tableDistance s t) ∧
      tableDistance s t = tableDistance t s ∧
      (tableDistance s t = 0 ↔ s = t) ∧
      ∀ u, tableDistance s u ≤ tableDistance s t + tableDistance t u := by
  refine ⟨tableDistance_eq s t, ?_⟩
  simp only [tableDistance_eq]
  exact ⟨editDistance_isLeast s t, editDistance_comm s t, editDistance_eq_zero_iff,
    editDistance_triangle s t⟩

/-- One letter is replaced at the front, one inside, and one is put in at the end. -/
example : tableDistance "kitten".toList "sitting".toList = 3 := by decide

end ModuleGraph.Text
