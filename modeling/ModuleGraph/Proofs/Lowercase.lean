import ModuleGraph.Text.Blank
import ModuleGraph.Text.Lowercase

/-!
# What lower-casing does to the marks of a text

A text is taken apart at its marks: slashes, colons, dots and the like.  Small letters are made
letter by letter, except that a capital sigma looks at the letters around it.  Marks stay what and
where they are, and none comes out of a letter, so a text may be cut before or after the small
letters are made.

## Key results

- `Text.mem_lowerOf_iff`: a mark comes from itself alone
- `Text.lowerFrom_eq_flatMap`: without a capital sigma, letter by letter
- `Text.exists_lowerFrom_append`: what stands behind the last capital sigma is lower-cased by itself
-/

namespace ModuleGraph.Text

/-! ### One character -/

/-- What becomes of a character that is no capital sigma. -/
def lowerOf (c : Char) : List Char := if c = 'İ' then ['i', '\u0307'] else [lowerChar c]

/-- An ASCII character that is neither a letter nor the one of number zero. -/
def IsMark (c : Char) : Prop := c.toNat < 128 ∧ c.isAlpha = false ∧ c.toNat ≠ 0

instance (c : Char) : Decidable (IsMark c) := inferInstanceAs (Decidable (_ ∧ _ ∧ _))

/-- Small letters of letters outside ASCII are outside it too, the Kelvin sign apart. -/
theorem le_of_shift?_lowerRows {n m : Nat} (h : shift? lowerRows n = some m) :
    m = 0x6B ∨ 0x80 ≤ m := by
  have hrows : ∀ row ∈ lowerRows,
      0x80 ≤ row.target ∨ row.target = 0x6B ∧ row.last = row.first := by decide +kernel
  obtain ⟨row, hmem, hmap⟩ := List.exists_of_findSome?_eq_some h
  rw [Shift.map?] at hmap
  split at hmap
  · next hrange =>
    simp only [Bool.and_eq_true, decide_eq_true_eq] at hrange
    obtain rfl := Option.some.inj hmap
    rcases hrows row hmem with hle | ⟨hk, hsingle⟩ <;> omega
  · exact nomatch hmap

/-- A number that is none of a character is replaced by zero. -/
theorem toNat_ofNat_eq (n : Nat) : (Char.ofNat n).toNat = n ∨ (Char.ofNat n).toNat = 0 := by
  by_cases hvalid : n.isValidChar
  · have hchar : Char.ofNat n = Char.ofNatAux n hvalid := dif_pos hvalid
    exact .inl (congrArg Char.toNat hchar)
  · have hzero : Char.ofNat n = '\x00' := dif_neg hvalid
    exact .inr (congrArg Char.toNat hzero)

/-- The number of a small letter outside ASCII. -/
theorem toNat_lowerChar {c : Char} (hc : 128 ≤ c.toNat) :
    (lowerChar c).toNat = 0 ∨ (lowerChar c).toNat = 0x6B ∨ 0x80 ≤ (lowerChar c).toNat := by
  have htarget : (shift? lowerRows c.toNat).getD c.toNat = 0x6B ∨
      0x80 ≤ (shift? lowerRows c.toNat).getD c.toNat := by
    cases hshift : shift? lowerRows c.toNat with
    | none => exact .inr hc
    | some m => exact le_of_shift?_lowerRows hshift
  rw [lowerChar, if_neg (by omega)]
  have := toNat_ofNat_eq ((shift? lowerRows c.toNat).getD c.toNat)
  omega

/-- What holds of every character of a text may be tried one by one. -/
theorem forall_of_all {p : Char → Prop} [DecidablePred p] {cs : List Char}
    (h : cs.all (fun c => decide (p c)) = true) : ∀ c ∈ cs, p c :=
  fun c hc => of_decide_eq_true (List.all_eq_true.1 h c hc)

/-- What holds of the first 128 characters, tried one by one, holds of ASCII. -/
theorem forall_ascii (P : Char → Prop) (h : ∀ n < 128, P (Char.ofNat n)) {c : Char}
    (hc : c.toNat < 128) : P c := by
  have := h c.toNat hc
  rwa [Char.ofNat_toNat] at this

/-- An ASCII character gives its small letter. -/
theorem lowerOf_of_lt {c : Char} (hc : c.toNat < 128) : lowerOf c = [c.toLower] := by
  have hdotted : c ≠ 'İ' := by
    rintro rfl
    exact absurd hc (by decide)
  rw [lowerOf, if_neg hdotted, lowerChar, if_pos hc]

/-- No capital letter of ASCII has a mark as its small letter. -/
theorem eq_of_isMark_toLower {c : Char} (hc : c.toNat < 128) (h : IsMark c.toLower) :
    c.toLower = c := by
  have hascii : ∀ n < 128, IsMark (Char.ofNat n).toLower →
      (Char.ofNat n).toLower = Char.ofNat n := by decide +kernel
  exact forall_ascii (fun c => IsMark c.toLower → c.toLower = c) hascii hc h

/-- A mark is its own small letter. -/
theorem IsMark.toLower_eq {m : Char} (hm : IsMark m) : m.toLower = m := by
  have hascii : ∀ n < 128, IsMark (Char.ofNat n) →
      (Char.ofNat n).toLower = Char.ofNat n := by decide +kernel
  exact forall_ascii (fun c => IsMark c → c.toLower = c) hascii hm.1 hm

/-- ASCII rules leave other characters alone. -/
theorem toLower_of_le {c : Char} (hc : 128 ≤ c.toNat) : c.toLower = c := by
  have hbound : ¬ (c.val ≥ 'A'.val ∧ c.val ≤ 'Z'.val) := by
    rintro ⟨-, hle⟩
    have hnat : c.toNat ≤ 90 := hle
    omega
  exact dif_neg hbound

/-- By ASCII rules, too, a mark comes from itself alone. -/
theorem toLower_eq_iff {m c : Char} (hm : IsMark m) : c.toLower = m ↔ c = m := by
  constructor
  · rintro rfl
    rcases Nat.lt_or_ge c.toNat 128 with hc | hc
    · exact (eq_of_isMark_toLower hc hm).symm
    · exact (toLower_of_le hc).symm
  · rintro rfl
    exact hm.toLower_eq

/-- A character outside ASCII has no small letter in it by ASCII rules. -/
theorem lt_of_toLower_lt {c : Char} (h : c.toLower.toNat < 128) : c.toNat < 128 := by
  rcases Nat.lt_or_ge c.toNat 128 with hc | hc
  · exact hc
  · rwa [toLower_of_le hc] at h

/-- No letter is blank, so case does not matter for blanks. -/
theorem isBlank_toLower (c : Char) : isBlank c.toLower = isBlank c := by
  have hascii : ∀ n < 128, isBlank (Char.ofNat n).toLower = isBlank (Char.ofNat n) := by
    decide +kernel
  rcases Nat.lt_or_ge c.toNat 128 with hc | hc
  · exact forall_ascii (fun c => isBlank c.toLower = isBlank c) hascii hc
  · rw [toLower_of_le hc]

/-- Small letters are their own small letters. -/
theorem toLower_toLower (c : Char) : c.toLower.toLower = c.toLower := by
  have hascii : ∀ n < 128, (Char.ofNat n).toLower.toLower = (Char.ofNat n).toLower := by
    decide +kernel
  rcases Nat.lt_or_ge c.toNat 128 with hc | hc
  · exact forall_ascii (fun c => c.toLower.toLower = c.toLower) hascii hc
  · rw [toLower_of_le hc, toLower_of_le hc]

/-- A text consists of marks when its small letters do. -/
theorem map_toLower_eq_iff {ms cs : List Char} (hms : ∀ m ∈ ms, IsMark m) :
    cs.map Char.toLower = ms ↔ cs = ms := by
  induction ms generalizing cs with
  | nil => exact List.map_eq_nil_iff
  | cons m ms ih =>
    rw [List.forall_mem_cons] at hms
    cases cs with
    | nil => simp
    | cons c cs =>
      rw [List.map_cons, List.cons.injEq, List.cons.injEq, toLower_eq_iff hms.1, ih hms.2]

/-- The marks of a text are those of its small letters. -/
theorem mem_map_toLower_iff {m : Char} (hm : IsMark m) {cs : List Char} :
    m ∈ cs.map Char.toLower ↔ m ∈ cs := by
  rw [List.mem_map]
  constructor
  · rintro ⟨c, hc, heq⟩
    rwa [← (toLower_eq_iff hm).1 heq]
  · exact fun hmem => ⟨m, hmem, hm.toLower_eq⟩

/-- A character at an end of a text is a mark when its small letter is. -/
theorem map_toLower_eq_some_iff {m : Char} (hm : IsMark m) {c? : Option Char} :
    c?.map Char.toLower = some m ↔ c? = some m := by
  cases c? with
  | none => simp
  | some c => rw [Option.map_some, Option.some_inj, Option.some_inj, toLower_eq_iff hm]

/-- A mark is lower-cased to itself. -/
theorem IsMark.lowerOf_eq {m : Char} (hm : IsMark m) : lowerOf m = [m] := by
  rw [lowerOf_of_lt hm.1, hm.toLower_eq]

/-- No mark comes from outside ASCII. -/
theorem not_isMark_of_mem_lowerOf {m c : Char} (hc : 128 ≤ c.toNat) (h : m ∈ lowerOf c) :
    ¬ IsMark m := by
  intro hm
  rw [lowerOf] at h
  split at h
  · -- Neither the letter i nor the dot above it is a mark.
    exact forall_of_all (p := fun c => ¬ IsMark c) (by decide) m h hm
  · rw [List.mem_singleton] at h
    have hnumber := toNat_lowerChar hc
    rw [← h] at hnumber
    rcases hnumber with hzero | hk | hle
    · exact hm.2.2 hzero
    · -- The Kelvin sign is the only one with a small letter in ASCII.
      obtain rfl : m = 'k' := Char.toNat_inj.1 hk
      exact absurd hm (by decide)
    · exact absurd hm.1 (Nat.not_lt.2 hle)

/-- A mark comes from itself alone. -/
theorem mem_lowerOf_iff {m c : Char} (hm : IsMark m) : m ∈ lowerOf c ↔ m = c := by
  constructor
  · intro hmem
    have hc : c.toNat < 128 := Nat.lt_of_not_le fun hle => not_isMark_of_mem_lowerOf hle hmem hm
    rw [lowerOf_of_lt hc, List.mem_singleton] at hmem
    subst hmem
    exact eq_of_isMark_toLower hc hm
  · rintro rfl
    rw [hm.lowerOf_eq]
    exact List.mem_singleton_self m

/-- No character vanishes. -/
theorem lowerOf_ne_nil (c : Char) : lowerOf c ≠ [] := by
  rw [lowerOf]
  split <;> simp

/-! ### A text -/

/-- Without a capital sigma, small letters are made letter by letter. -/
theorem lowerFrom_eq_flatMap {cs : List Char} (h : 'Σ' ∉ cs) (before : List Char) :
    lowerFrom before cs = cs.flatMap lowerOf := by
  induction cs generalizing before with
  | nil => rfl
  | cons c cs ih =>
    rw [List.mem_cons, not_or] at h
    rw [lowerFrom, ih h.2, List.flatMap_cons, if_neg (Ne.symm h.1)]
    rfl

/-- The sigmas lie outside ASCII. -/
theorem sigma_not_mem {cs : List Char} (h : ∀ c ∈ cs, c.toNat < 128) : 'Σ' ∉ cs :=
  fun hmem => absurd (h _ hmem) (by decide)

/-- In ASCII, the small letter of every character is that of ASCII rules. -/
theorem flatMap_lowerOf_of_lt {cs : List Char} (h : ∀ c ∈ cs, c.toNat < 128) :
    cs.flatMap lowerOf = cs.map Char.toLower := by
  induction cs with
  | nil => rfl
  | cons c cs ih =>
    rw [List.forall_mem_cons] at h
    rw [List.flatMap_cons, lowerOf_of_lt h.1, ih h.2]
    rfl

/-- A text of ASCII is lower-cased by ASCII rules, whatever stands in front. -/
theorem lowerFrom_of_lt {cs : List Char} (h : ∀ c ∈ cs, c.toNat < 128) (before : List Char) :
    lowerFrom before cs = cs.map Char.toLower := by
  rw [lowerFrom_eq_flatMap (sigma_not_mem h), flatMap_lowerOf_of_lt h]

/-- What has no capital sigma in it is lower-cased by itself, and its marks are no others than
those of the text in front of it. -/
theorem exists_lowerFrom_append {b : List Char} (hb : 'Σ' ∉ b) (a before : List Char) :
    ∃ x, lowerFrom before (a ++ b) = x ++ b.flatMap lowerOf ∧ ∀ m ∈ x, IsMark m → m ∈ a := by
  induction a generalizing before with
  | nil => exact ⟨[], lowerFrom_eq_flatMap hb before, fun m hm => nomatch hm⟩
  | cons c a ih =>
    obtain ⟨x, hx, hmarks⟩ := ih (c :: before)
    rw [List.cons_append, lowerFrom, hx]
    refine ⟨_ ++ x, (List.append_assoc ..).symm, ?_⟩
    intro m hmem hm
    rw [List.mem_cons]
    rcases List.mem_append.1 hmem with hmem | hmem
    · refine .inl ?_
      by_cases hsigma : c = 'Σ'
      · -- Both small sigmas lie outside ASCII.
        subst hsigma
        rw [if_neg (by decide), if_pos rfl, List.mem_singleton] at hmem
        subst hmem
        exfalso
        revert hm
        split <;> decide
      · rw [if_neg hsigma] at hmem
        exact (mem_lowerOf_iff hm).1 hmem
    · exact .inr (hmarks m hmem hm)

end ModuleGraph.Text
