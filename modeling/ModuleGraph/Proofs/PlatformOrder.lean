import ModuleGraph.Platform
import Mathlib.Data.List.DropRight

/-!
# The order of platform versions

Two versions are compared as if the shorter one had zeros at its end.  Zeros at the end do not
count, so this is the order of the rows that are left without them, and like that one it is total
and transitive.  How far two versions are filled up depends on both of them, so a third version is
compared with each of them over rows of other lengths; that the length does not matter is what makes
these comparisons agree.

## Key results

- `PlatformVersion.compare_eq_significant`: only the numbers before the zeros at the end count
- the instance of `Std.TransOrd`: versions are ordered
- `PlatformVersion.comparePadded_eq_rightpad`: it does not matter how far rows are filled up
- `PlatformVersion.compare_orders`: the order, and which versions are the same in it
-/

namespace ModuleGraph.PlatformVersion

/-- A row of numbers without the zeros at its end. -/
def significant : List Nat → List Nat
  | [] => []
  | a :: as => if a = 0 ∧ significant as = [] then [] else a :: significant as

/-- No number counts exactly if all are zeros. -/
theorem significant_eq_nil_iff {as : List Nat} :
    significant as = [] ↔ as.all (· == 0) = true := by
  induction as with
  | nil => simp [significant]
  | cons a as ih =>
    rw [List.all_cons, Bool.and_eq_true, beq_iff_eq, ← ih, significant]
    split <;> simp_all

/-- Either the first number of a row counts, or none does. -/
theorem significant_cases (as : List Nat) :
    (significant as = as.headD 0 :: significant as.tail ∧
        (as.headD 0 = 0 → significant as.tail ≠ [])) ∨
      (significant as = [] ∧ as.headD 0 = 0 ∧ significant as.tail = []) := by
  cases as with
  | nil => exact .inr ⟨rfl, rfl, rfl⟩
  | cons a as =>
    by_cases h : a = 0 ∧ significant as = []
    · exact .inr ⟨if_pos h, h.1, h.2⟩
    · exact .inl ⟨if_neg h, fun ha has => h ⟨ha, has⟩⟩

/-- The numbers that count are compared one by one. -/
theorem compare_significant (as bs : List Nat) :
    compare (significant as) (significant bs) =
      (compare (as.headD 0) (bs.headD 0)).then
        (compare (significant as.tail) (significant bs.tail)) := by
  rcases significant_cases as with ⟨has, hmore⟩ | ⟨has, ha, hrest⟩ <;>
    rcases significant_cases bs with ⟨hbs, hmore'⟩ | ⟨hbs, hb, hrest'⟩
  · rw [has, hbs, List.compare_cons_cons]
  · -- The second row is zero throughout; a first number that is zero leaves it to the rest.
    rw [has, hbs, hb, hrest', List.compare_cons_nil]
    cases hhead : as.headD 0 with
    | zero =>
      cases htail : significant as.tail with
      | nil => exact absurd htail (hmore hhead)
      | cons c cs => rfl
    | succ n => rw [Nat.compare_eq_gt.2 (Nat.succ_pos n)]; rfl
  · rw [has, hbs, ha, hrest, List.compare_nil_cons]
    cases hhead : bs.headD 0 with
    | zero =>
      cases htail : significant bs.tail with
      | nil => exact absurd htail (hmore' hhead)
      | cons c cs => rfl
    | succ n => rw [Nat.compare_eq_lt.2 (Nat.succ_pos n)]; rfl
  · rw [has, hbs, ha, hb, hrest, hrest']
    rfl

/-- Rows are compared by the numbers that count. -/
theorem comparePadded_eq (as bs : List Nat) :
    comparePadded as bs = compare (significant as) (significant bs) := by
  induction as generalizing bs with
  | nil =>
    -- Zeros are put in for what is missing, so the second row is greater or zero as well.
    rw [comparePadded]
    split
    · next hzeros =>
      rw [significant_eq_nil_iff.2 hzeros]
      rfl
    · next hzeros =>
      cases hbs : significant bs with
      | nil => exact absurd (significant_eq_nil_iff.1 hbs) hzeros
      | cons b rest => rfl
  | cons a as ih =>
    rw [comparePadded, ih, compare_significant (a :: as)]
    rfl

/-- Versions are compared by the numbers that count. -/
theorem compare_eq_significant (v w : PlatformVersion) :
    compare v w = compare (significant v.parts) (significant w.parts) :=
  comparePadded_eq v.parts w.parts

instance : Std.TransOrd PlatformVersion where
  eq_swap {v w} := by
    rw [compare_eq_significant, compare_eq_significant]
    exact Std.OrientedOrd.eq_swap
  isLE_trans {u v w} huv hvw := by
    rw [compare_eq_significant] at *
    exact Std.TransOrd.isLE_trans huv hvw

/-! ### Zeros at the end -/

/-- A zero more at the end counts for nothing; any other number makes all before it count. -/
theorem significant_concat (as : List Nat) (a : Nat) :
    significant (as ++ [a]) = if a = 0 then significant as else as ++ [a] := by
  induction as with
  | nil => simp [significant]
  | cons b as ih =>
    rw [List.cons_append, significant, ih]
    by_cases ha : a = 0
    · rw [if_pos ha, if_pos ha, significant]
    · rw [if_neg ha, if_neg ha, if_neg fun h => List.concat_ne_nil a as (by simpa using h.2)]

/-- The numbers that count are left when the zeros at the end are dropped. -/
theorem significant_eq_rdropWhile (as : List Nat) : significant as = as.rdropWhile (· == 0) := by
  -- From the end, where zeros are dropped; `significant` itself goes from the front.
  induction as using List.reverseRecOn with
  | nil => rfl
  | append_singleton as a ih =>
    rw [significant_concat, List.rdropWhile_concat, ih]
    simp only [beq_iff_eq]

/-- Any number of zeros at the end counts for nothing. -/
theorem significant_append_replicate (as : List Nat) (k : Nat) :
    significant (as ++ List.replicate k 0) = significant as := by
  induction k with
  | zero => rw [List.replicate_zero, List.append_nil]
  | succ k ih => rw [List.replicate_succ', ← List.append_assoc, significant_concat, if_pos rfl, ih]

/-- Between rows of one length nothing is filled up. -/
theorem comparePadded_of_length_eq {as bs : List Nat} (h : as.length = bs.length) :
    comparePadded as bs = compare as bs := by
  induction as generalizing bs with
  | nil =>
    rw [List.length_eq_zero_iff.1 h.symm]
    rfl
  | cons a as ih =>
    cases bs with
    | nil => exact nomatch h
    | cons b bs =>
      rw [comparePadded, List.compare_cons_cons, List.headD_cons, List.tail_cons,
        ih (Nat.succ.inj h)]

/-- It does not matter how far two rows are filled up with zeros, if it is to one length. -/
theorem comparePadded_eq_rightpad {as bs : List Nat} {n : Nat} (has : as.length ≤ n)
    (hbs : bs.length ≤ n) : comparePadded as bs = compare (as.rightpad n 0) (bs.rightpad n 0) := by
  have hlength : (as.rightpad n 0).length = (bs.rightpad n 0).length := by
    rw [List.length_rightpad, List.length_rightpad, Nat.max_eq_left has, Nat.max_eq_left hbs]
  -- However many zeros are put in, what counts in the rows is the same.
  rw [← comparePadded_of_length_eq hlength, comparePadded_eq, comparePadded_eq]
  unfold List.rightpad
  rw [significant_append_replicate, significant_append_replicate]

/-! ### The order -/

/-- The numbers of a version without the zeros at their end. -/
def stripped (v : PlatformVersion) : List Nat := v.parts.rdropWhile (· == 0)

section
variable {u v w : PlatformVersion}

/-- Versions are compared by what is left without the zeros. -/
theorem compare_eq_stripped (v w : PlatformVersion) :
    compare v w = compare v.stripped w.stripped := by
  rw [compare_eq_significant, significant_eq_rdropWhile, significant_eq_rdropWhile, stripped,
    stripped]

/-- Versions that count as the same differ in zeros at the end only. -/
theorem same_iff_stripped : v.same w = true ↔ v.stripped = w.stripped := by
  rw [same, beq_iff_eq, compare_eq_stripped, Std.LawfulEqOrd.compare_eq_iff_eq]

/-- Versions that count as the same are at most each other. -/
theorem same_iff :
    v.same w = true ↔ (compare v w).isLE = true ∧ (compare w v).isLE = true := by
  rw [same, beq_iff_eq]
  constructor
  · intro heq
    rw [heq, Std.OrientedCmp.eq_symm heq]
    exact ⟨rfl, rfl⟩
  · rintro ⟨hle, hge⟩
    exact Std.OrientedCmp.isLE_antisymm hle hge

/-- Versions that count as the same are interchangeable on the right of a comparison. -/
theorem compare_congr_right (h : v.same w = true) : compare u v = compare u w := by
  rw [compare_eq_stripped, compare_eq_stripped u w, same_iff_stripped.1 h]

/-- Versions that count as the same are interchangeable on the left of a comparison. -/
theorem compare_congr_left (h : v.same w = true) : compare v u = compare w u := by
  rw [compare_eq_stripped, compare_eq_stripped w u, same_iff_stripped.1 h]

end

/-- Versions are in lexicographic order when the zeros at their ends are dropped, or when zeros are
put there up to any one length.  So the order is reflexive, total and transitive.  Versions that are
at most each other count as the same; these are the ones that nothing but zeros at the end tells
apart, and no comparison tells them apart. -/
theorem compare_orders (u v w : PlatformVersion) :
    compare v w = compare v.stripped w.stripped ∧
    (∀ n, v.parts.length ≤ n → w.parts.length ≤ n →
      compare v w = compare (v.parts.rightpad n 0) (w.parts.rightpad n 0)) ∧
    compare v v = .eq ∧
    compare w v = (compare v w).swap ∧
    ((compare v w).isLE = true ∨ (compare w v).isLE = true) ∧
    ((compare u v).isLE = true → (compare v w).isLE = true → (compare u w).isLE = true) ∧
    ((compare v w).isLE = true → (compare w v).isLE = true → v.same w = true) ∧
    (v.same w = true ↔ v.stripped = w.stripped) ∧
    (v.same w = true → compare u v = compare u w ∧ compare v u = compare w u) := by
  refine ⟨compare_eq_stripped v w, fun n hv hw => comparePadded_eq_rightpad hv hw,
    Std.ReflOrd.compare_self, Std.OrientedOrd.eq_swap, ?total, Std.TransOrd.isLE_trans,
    fun hle hge => same_iff.2 ⟨hle, hge⟩, same_iff_stripped,
    fun h => ⟨compare_congr_right h, compare_congr_left h⟩⟩
  case total =>
    rw [Std.OrientedOrd.eq_swap (a := w)]
    cases compare v w with
    | lt => exact .inl rfl
    | eq => exact .inl rfl
    | gt => exact .inr rfl

/-- The zero inside counts and the one at the end does not, so the longer version is below the
shortest one. -/
theorem compare_orders_innerZero :
    (compare (mk [10, 0, 1, 0]) (mk [10, 0, 1])).isLE = true ∧
    (compare (mk [10, 0, 1]) (mk [10, 0, 1, 0])).isLE = true ∧
    (mk [10, 0, 1, 0]).same (mk [10, 0, 1]) = true ∧
    (compare (mk [10, 0, 1]) (mk [10, 1])).isLE = true ∧
    (compare (mk [10, 0, 1, 0]) (mk [10, 1])).isLE = true ∧
    compare (mk [10, 1]) (mk [10, 0, 1, 0]) = compare (mk [10, 1]) (mk [10, 0, 1]) ∧
    compare (mk [10, 0, 1]) (mk [10, 1]) = compare [10, 0, 1, 0, 0] [10, 1, 0, 0, 0] := by
  obtain ⟨-, hpadded, -, -, -, htrans, -⟩ :=
    compare_orders (mk [10, 0, 1, 0]) (mk [10, 0, 1]) (mk [10, 1])
  obtain ⟨-, -, -, -, -, -, hantisymm, -, hinterchange⟩ :=
    compare_orders (mk [10, 1]) (mk [10, 0, 1, 0]) (mk [10, 0, 1])
  have hle : (compare (mk [10, 0, 1, 0]) (mk [10, 0, 1])).isLE = true := by decide
  have hge : (compare (mk [10, 0, 1]) (mk [10, 0, 1, 0])).isLE = true := by decide
  have hbelow : (compare (mk [10, 0, 1]) (mk [10, 1])).isLE = true := by decide
  have hsame := hantisymm hle hge
  exact ⟨hle, hge, hsame, hbelow, htrans hle hbelow, (hinterchange hsame).1,
    hpadded 5 (by decide) (by decide)⟩

end ModuleGraph.PlatformVersion
