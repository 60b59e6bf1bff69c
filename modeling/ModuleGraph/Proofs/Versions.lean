import ModuleGraph.Platform
import ModuleGraph.Version
import ModuleGraph.Proofs.Text

/-!
# Versions as texts

Platform versions and semantic versions are written and read as texts.  A text spells a platform
version if numbers with dots between them are all that it has between blanks; which of the versions
a text can spell is a proposition (`PlatformVersion.Proper`, and `Version.Proper` for semantic
ones). The readers give no others, and these come back from what they are written as.

## Key results

- `PlatformVersion.part?_eq_some`, `PlatformVersion.parse?_eq_some`: the grammar that is read
- `PlatformVersion.Proper.parse?_write`, `PlatformVersion.Proper.of_parse?`
- `PlatformVersion.parse?_spells`: what is read from a text, and from that of a version
- `Version.Proper.parse?_write`, `Version.Proper.of_parse?`
-/

namespace ModuleGraph

namespace PlatformVersion

/-! ### The grammar -/

/-- A row of ASCII digits denotes a number that a part may be.  There may be zeros in front. -/
structure Denotes (digits : List Char) (n : Nat) : Prop where
  nonempty : digits ≠ []
  isDigit : ∀ c ∈ digits, c.isDigit = true
  value : Nat.ofDigitChars 10 digits 0 = n
  fits : n ≤ maxPart

/-- The text of a part: digits, perhaps with a plus sign in front. -/
inductive WritesPart : List Char → Nat → Prop
  | plain {digits : List Char} {n : Nat} (h : Denotes digits n) : WritesPart digits n
  | signed {digits : List Char} {n : Nat} (h : Denotes digits n) : WritesPart ('+' :: digits) n

/-- A text spells a version: the parts stand in their order, with dots between them, and there is
nothing but blanks around them. -/
def Spells (s : String) (v : PlatformVersion) : Prop :=
  ∃ before pieces after, s.toList = before ++ (['.'].intercalate pieces ++ after) ∧
    (∀ c ∈ before, Text.isBlank c = true) ∧ (∀ c ∈ after, Text.isBlank c = true) ∧
    pieces ≠ [] ∧ List.Forall₂ WritesPart pieces v.parts

section
variable {cs : List Char} {n : Nat}

/-- No digits begin with a plus sign. -/
theorem Denotes.not_plus {rest : List Char} : ¬ Denotes ('+' :: rest) n := fun h =>
  absurd (h.isDigit '+' List.mem_cons_self) (by decide)

/-- The text of a part has neither blanks nor dots. -/
theorem WritesPart.not_blank (h : WritesPart cs n) :
    ∀ c ∈ cs, Text.isBlank c = false ∧ (c == '.') = false := by
  have hdigit {c : Char} (hc : c.isDigit = true) : Text.isBlank c = false ∧ (c == '.') = false := by
    refine ⟨Text.isBlank_of_isDigit hc, beq_eq_false_iff_ne.2 ?_⟩
    rintro rfl
    exact absurd hc (by decide)
  cases h with
  | plain h => exact fun c hc => hdigit (h.isDigit c hc)
  -- The sign is neither blank nor a dot.
  | signed h =>
    intro c hc
    rcases List.mem_cons.1 hc with rfl | hc
    · decide
    · exact hdigit (h.isDigit c hc)

/-! ### Reading -/

/-- A number that fits is read from its digits. -/
theorem numeral?_bind_eq_some :
    ((Text.numeral? cs).bind fun n => if n ≤ maxPart then some n else none) = some n ↔
      Denotes cs n := by
  simp only [Option.bind_eq_some_iff, Option.ite_none_right_eq_some, Option.some.injEq,
    exists_eq_right_right, Text.numeral?_eq_some]
  constructor
  · rintro ⟨⟨hne, hdigits, hvalue⟩, hfits⟩
    exact ⟨hne, hdigits, hvalue, hfits⟩
  · intro h
    exact ⟨⟨h.nonempty, h.isDigit, h.value⟩, h.fits⟩

/-- A part is read from its texts, and from no others. -/
theorem part?_eq_some : part? cs = some n ↔ WritesPart cs n := by
  unfold part?
  split
  · next rest =>
    rw [numeral?_bind_eq_some]
    constructor
    · exact .signed
    · intro h
      -- The sign is no part of the digits, so there is one reading only.
      cases h with
      | plain h => exact absurd h Denotes.not_plus
      | signed h => exact h
  · next hplus =>
    rw [numeral?_bind_eq_some]
    constructor
    · exact .plain
    · intro h
      cases h with
      | plain h => exact h
      | signed h => exact absurd rfl (hplus _)

end

section
variable {s : String} {v : PlatformVersion}

/-- A version is read from the texts that spell it, and from no others. -/
theorem parse?_eq_some : parse? s = some v ↔ Spells s v := by
  unfold parse?
  simp only [Option.map_eq_some_iff, List.mapM_eq_some, part?_eq_some]
  constructor
  · rintro ⟨parts, hparts, rfl⟩
    -- The text is put together again from what was trimmed off and the pieces that were cut.
    obtain ⟨before, after, htext, hbefore, hafter⟩ :=
      Text.exists_eq_append_trimWhile Text.isBlank s.toList
    exact ⟨before, _, after, by rwa [Text.intercalate_splitWhere], hbefore, hafter,
      Text.splitWhere_ne_nil _ _, hparts⟩
  · rintro ⟨before, pieces, after, htext, hbefore, hafter, hne, hparts⟩
    have hpiece : ∀ piece ∈ pieces, ∀ c ∈ piece, Text.isBlank c = false ∧ (c == '.') = false := by
      intro piece hmem
      obtain ⟨n, -, hwrites⟩ := hparts.exists_of_mem_left hmem
      exact hwrites.not_blank
    -- So trimming takes the blanks around the parts only, and cutting finds these again.
    have hdot : ∀ c ∈ ['.'], Text.isBlank c = false := List.forall_mem_singleton.2 (by decide)
    have hblank : ∀ c ∈ ['.'].intercalate pieces, Text.isBlank c = false :=
      List.forall_mem_intercalate hdot fun piece hmem c hc => (hpiece piece hmem c hc).1
    refine ⟨v.parts, ?_, rfl⟩
    rw [htext, Text.trimWhile_append hbefore hblank hafter,
      Text.splitWhere_intercalate hne (fun piece hmem c hc => (hpiece piece hmem c hc).2) rfl]
    exact hparts

/-- A version that a text can spell: it has a number, and its numbers fit in 32 bits. -/
structure Proper (v : PlatformVersion) : Prop where
  nonempty : v.parts ≠ []
  bounded : ∀ n ∈ v.parts, n ≤ maxPart

instance (v : PlatformVersion) : Decidable v.Proper :=
  decidable_of_iff (v.parts ≠ [] ∧ ∀ n ∈ v.parts, n ≤ maxPart)
    ⟨fun h => ⟨h.1, h.2⟩, fun h => ⟨h.nonempty, h.bounded⟩⟩

/-- A version is spelled by what it is written as. -/
theorem Proper.spells_write (h : v.Proper) : Spells v.write v := by
  refine ⟨[], v.parts.map (Nat.toDigits 10), [], ?_, List.forall_mem_nil _, List.forall_mem_nil _,
    by simpa using h.nonempty, ?_⟩
  · rw [List.nil_append, List.append_nil]
    exact Text.toList_intercalate_decimal v.parts
  · refine List.forall₂_map_left_iff.2 (List.forall₂_same.2 fun n hn => .plain ?_)
    obtain ⟨hne, hdigits, hvalue⟩ := Text.numeral?_eq_some.1 (Text.numeral?_toDigits n)
    exact ⟨hne, hdigits, hvalue, h.bounded n hn⟩

/-- A version is read from what it is written as. -/
theorem Proper.parse?_write (h : v.Proper) : parse? v.write = some v :=
  parse?_eq_some.2 h.spells_write

/-- Only such versions are read. -/
theorem Proper.of_parse? (h : parse? s = some v) : v.Proper := by
  obtain ⟨_, pieces, _, -, -, -, hne, hparts⟩ := parse?_eq_some.1 h
  constructor
  · intro hnil
    rw [hnil, List.forall₂_nil_right_iff] at hparts
    exact hne hparts
  · intro n hn
    obtain ⟨cs, -, hwrites⟩ := hparts.exists_of_mem_right hn
    cases hwrites with
    | plain h => exact h.fits
    | signed h => exact h.fits

end

/-- A version is read from a text exactly if that has, blanks around it disregarded, the parts of
the version in their order with dots between them, each of them written in ASCII digits, perhaps
with zeros and one plus sign in front, and none above the limit.  What a version is written as gives
this version exactly if it has parts and none of them is above the limit. -/
theorem parse?_spells (v : PlatformVersion) :
    (∀ s, parse? s = some v ↔ Spells s v) ∧
    (parse? v.write = some v ↔ v.parts ≠ [] ∧ ∀ n ∈ v.parts, n ≤ maxPart) := by
  refine ⟨fun s => parse?_eq_some, fun h => ?_, fun ⟨hne, hbounded⟩ => ?_⟩
  · have hproper := Proper.of_parse? h
    exact ⟨hproper.nonempty, hproper.bounded⟩
  · exact Proper.parse?_write ⟨hne, hbounded⟩

/-- Signs, zeros and blanks are not kept, and the greatest number is read. -/
example : parse? "\t+010.0.4294967295 " = some ⟨[10, 0, 4294967295]⟩ := by decide

end PlatformVersion

namespace Version

/-- A version that a text can write: its numbers fit in 64 bits, and pre-release and build metadata
are absent or rows of identifiers. -/
structure Proper (v : Version) : Prop where
  bounded : ∀ n ∈ [v.major, v.minor, v.patch], n < Nat.pow 2 64
  pre : v.pre = "" ∨ areIdentifiers true v.pre.toList = true
  build : v.build = "" ∨ areIdentifiers false v.build.toList = true

instance (v : Version) : Decidable v.Proper :=
  decidable_of_iff
    ((∀ n ∈ [v.major, v.minor, v.patch], n < Nat.pow 2 64) ∧
      (v.pre = "" ∨ areIdentifiers true v.pre.toList = true) ∧
      (v.build = "" ∨ areIdentifiers false v.build.toList = true))
    ⟨fun h => ⟨h.1, h.2.1, h.2.2⟩, fun h => ⟨h.bounded, h.pre, h.build⟩⟩

/-! ### Numbers -/

/-- The numbers that fit are read from numerals without superfluous zeros. -/
theorem number?_eq_some {cs : List Char} {n : Nat} :
    number? cs = some n ↔
      (∀ c rest, cs ≠ '0' :: c :: rest) ∧ Text.numeral? cs = some n ∧ n < Nat.pow 2 64 := by
  unfold number?
  split
  · next c rest => exact iff_of_false (fun h => nomatch h) fun h => h.1 c rest rfl
  · next hzero =>
    simp only [Option.bind_eq_some_iff, Option.ite_none_right_eq_some, Option.some.injEq,
      exists_eq_right_right]
    exact (and_iff_right hzero).symm

/-- A number is read from its digits. -/
theorem number?_toDigits {n : Nat} (h : n < Nat.pow 2 64) :
    number? (Nat.toDigits 10 n) = some n :=
  number?_eq_some.2 ⟨Text.toDigits_ne_zero_cons n, Text.numeral?_toDigits n, h⟩

/-- No number needs more than 64 bits. -/
theorem lt_of_number? {cs : List Char} {n : Nat} (h : number? cs = some n) :
    n < Nat.pow 2 64 :=
  (number?_eq_some.1 h).2.2

/-! ### Parts behind a sign -/

/-- A part that may be absent, behind its sign. -/
def signed (sign : Char) (s : String) : List Char := if s.isEmpty then [] else sign :: s.toList

/-- Before a part behind a sign stands what has no such sign. -/
theorem takeWhile_signed {sign : Char} {front : List Char} (h : ∀ c ∈ front, (c != sign) = true)
    (s : String) : (front ++ signed sign s).takeWhile (· != sign) = front := by
  rw [List.takeWhile_append_of_pos h, signed]
  split <;> simp

/-- A part begins at the first of its signs. -/
theorem dropWhile_signed {sign : Char} {front : List Char} (h : ∀ c ∈ front, (c != sign) = true)
    (s : String) : (front ++ signed sign s).dropWhile (· != sign) = signed sign s := by
  rw [List.dropWhile_append_of_pos h, signed]
  split <;> simp

/-- A part is read from what stands behind its sign. -/
theorem tail?_signed {isPre : Bool} {s : String}
    (h : s = "" ∨ areIdentifiers isPre s.toList = true) (sign : Char) :
    tail? isPre (signed sign s).tail? = some s := by
  rw [signed]
  split
  · next hempty => simpa [tail?] using hempty
  · next hne =>
    have hids : areIdentifiers isPre s.toList = true := h.resolve_left (by simpa using hne)
    show tail? isPre (some s.toList) = some s
    rw [tail?, if_pos hids, String.ofList_toList]

/-- A part that is read is absent or a row of identifiers. -/
theorem areIdentifiers_of_tail? {isPre : Bool} {cs : Option (List Char)} {s : String}
    (h : tail? isPre cs = some s) : s = "" ∨ areIdentifiers isPre s.toList = true := by
  cases cs with
  | none => exact .inl (Option.some.inj h).symm
  | some cs =>
    rw [tail?] at h
    split at h
    · next hids => exact .inr (by rw [← Option.some.inj h, String.toList_ofList, hids])
    · exact nomatch h

/-- The characters of identifiers. -/
theorem mem_of_areIdentifiers {isPre : Bool} {cs : List Char} (h : areIdentifiers isPre cs = true)
    {c : Char} (hc : c ∈ cs) : c.isAlphanum = true ∨ c = '-' ∨ c = '.' := by
  rcases Text.mem_splitWhere (p := (· == '.')) hc with hdot | ⟨piece, hmem, hc⟩
  · exact .inr (.inr (by simpa using hdot))
  · have hpiece := List.all_eq_true.1 h piece hmem
    simp only [Bool.and_eq_true, List.all_eq_true, Bool.or_eq_true, beq_iff_eq] at hpiece
    exact (hpiece.1.2 c hc).imp_right .inl

/-! ### Versions -/

/-- The characters of a version. -/
theorem toList_write (v : Version) :
    v.write.toList =
      Text.dotted [v.major, v.minor, v.patch] ++ signed '-' v.pre ++ signed '+' v.build := by
  have hsigned : ∀ (sign : Char) (s : String),
      (if s.isEmpty then "" else String.singleton sign ++ s).toList = signed sign s := by
    intro sign s
    rw [signed]
    split <;> simp
  have hnumbers := Text.toList_intercalate_decimal [v.major, v.minor, v.patch]
  rw [← hsigned, ← hsigned, ← hnumbers, ← String.toList_append, ← String.toList_append]
  rfl

/-- A version is read from what it is written as. -/
theorem Proper.parse?_write {v : Version} (h : v.Proper) : parse? v.write = some v := by
  -- No sign stands before the part that it introduces.
  have hcore : ∀ c ∈ Text.dotted [v.major, v.minor, v.patch],
      (c != '-') = true ∧ (c != '+') = true := by
    intro c hc
    rw [bne_iff_ne, bne_iff_ne]
    rcases Text.mem_dotted c hc with rfl | hdigit
    · decide
    · constructor <;> rintro rfl <;> exact absurd hdigit (by decide)
  have hpre : ∀ c ∈ signed '-' v.pre, (c != '+') = true := by
    intro c hc
    rw [bne_iff_ne]
    rintro rfl
    rcases h.pre with hempty | hids
    · simp [signed, hempty] at hc
    · rw [signed] at hc
      split at hc
      · exact nomatch hc
      · have hmem : '+' ∈ v.pre.toList := by simpa using hc
        exact absurd (mem_of_areIdentifiers hids hmem) (by decide)
  have hfront : ∀ c ∈ Text.dotted [v.major, v.minor, v.patch] ++ signed '-' v.pre,
      (c != '+') = true := by
    intro c hc
    rcases List.mem_append.1 hc with hc | hc
    · exact (hcore c hc).2
    · exact hpre c hc
  have hnumber : ∀ n ∈ [v.major, v.minor, v.patch], number? (Nat.toDigits 10 n) = some n :=
    fun n hn => number?_toDigits (h.bounded n hn)
  simp only [parse?, toList_write]
  rw [takeWhile_signed hfront, dropWhile_signed hfront,
    takeWhile_signed fun c hc => (hcore c hc).1, dropWhile_signed fun c hc => (hcore c hc).1,
    tail?_signed h.pre, tail?_signed h.build, Text.splitWhere_dotted (by simp)]
  simp [hnumber]

/-- Only such versions are read. -/
theorem Proper.of_parse? {t : String} {v : Version} (h : parse? t = some v) : v.Proper := by
  simp only [parse?, Option.bind_eq_bind, Option.bind_eq_some_iff] at h
  obtain ⟨build, hbuild, pre, hpre, h⟩ := h
  split at h
  · next major minor patch hpieces =>
    simp only [Option.bind_eq_some_iff, Option.some.injEq] at h
    obtain ⟨a, ha, b, hb, c, hc, rfl⟩ := h
    constructor
    · intro n hn
      simp only [List.mem_cons, List.not_mem_nil, or_false] at hn
      rcases hn with rfl | rfl | rfl
      · exact lt_of_number? ha
      · exact lt_of_number? hb
      · exact lt_of_number? hc
    · exact areIdentifiers_of_tail? hpre
    · exact areIdentifiers_of_tail? hbuild
  · exact nomatch h

end Version

end ModuleGraph
