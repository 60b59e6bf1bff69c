import Mathlib.Data.List.DropRight
import ModuleGraph.Text.Blank
import ModuleGraph.Text.Decimal
import ModuleGraph.Text.Split
import ModuleGraph.Proofs.List

/-!
# Texts that are cut, trimmed and read as numbers

What joining, trimming and printing do to a text is undone by the readers: pieces without the
separator are found again between the separators, a text without blanks is not shortened, and a
number is read from its digits.  Versions are rows of numbers with dots between them.  Locations are
cut at marks, at the beginning and at the end; what stands behind the last mark does not depend on
what is in front of it.

## Key results

- `Text.splitWhere_intercalate`, `Text.intercalate_splitWhere`: cutting and joining undo each other
- `Text.stripStart?_eq_some`, `Text.stripEnd?_eq_some`, `Text.exists_of_cutThrough?_eq_some`: what
  is cut off was there
- `Text.lastPiece_append_of_exists`, `Text.lastPiece_flatMap`: the last piece goes by the text
  behind the last separator, and does not mind letters that are replaced
- `Text.trimWhile_append`, `Text.exists_eq_append_trimWhile`: what is trimmed off
- `Text.numeral?_eq_some`: which texts are read as a number
- `Text.numeral?_toDigits`, `Text.toDigits_ne_zero_cons`: a number is read from its digits, which
  have no superfluous zero in front
- `Text.splitWhere_dotted`: the numbers of a row are found again
-/

namespace ModuleGraph.Text

/-! ### Cutting -/

section
variable {p : Char → Bool}

/-- A text without separators is one piece. -/
theorem splitWhere_eq_singleton {cs : List Char} (h : ∀ c ∈ cs, p c = false) :
    splitWhere p cs = [cs] := by
  induction cs with
  | nil => rfl
  | cons c cs ih =>
    rw [splitWhere, h c (by simp), ih fun c hc => h c (by simp [hc])]
    rfl

/-- The first piece goes as far as the first separator. -/
theorem splitWhere_append_cons {piece : List Char} (h : ∀ c ∈ piece, p c = false) {sep : Char}
    (hsep : p sep = true) (rest : List Char) :
    splitWhere p (piece ++ sep :: rest) = piece :: splitWhere p rest := by
  induction piece with
  | nil =>
    show splitWhere p (sep :: rest) = [] :: splitWhere p rest
    rw [splitWhere, if_pos hsep]
  | cons c piece ih =>
    show splitWhere p (c :: (piece ++ sep :: rest)) = (c :: piece) :: splitWhere p rest
    rw [splitWhere, h c (by simp), ih fun c hc => h c (by simp [hc])]
    rfl

/-- Every character is a separator or in a piece. -/
theorem mem_splitWhere {cs : List Char} {c : Char} (h : c ∈ cs) :
    p c = true ∨ ∃ piece ∈ splitWhere p cs, c ∈ piece := by
  induction cs with
  | nil => exact nomatch h
  | cons d cs ih =>
    rw [splitWhere]
    by_cases hd : p d = true
    · rw [if_pos hd]
      -- A separator: an empty piece is put in front.
      rw [List.exists_mem_cons_iff]
      rcases List.mem_cons.1 h with rfl | h
      · exact .inl hd
      · exact (ih h).imp_right .inr
    · rw [if_neg hd]
      cases hrest : splitWhere p cs with
      | nil => exact absurd hrest (splitWhere_ne_nil p cs)
      -- Any other character is put in front of the first piece.
      | cons piece pieces =>
        rw [hrest, List.exists_mem_cons_iff] at ih
        show p c = true ∨ ∃ piece' ∈ (d :: piece) :: pieces, c ∈ piece'
        rw [List.exists_mem_cons_iff, List.mem_cons]
        rcases List.mem_cons.1 h with rfl | h
        · exact .inr (.inl (.inl rfl))
        · exact (ih h).imp_right fun hc => hc.imp_left .inr

/-- Cutting undoes joining. -/
theorem splitWhere_intercalate {pieces : List (List Char)} (hne : pieces ≠ [])
    (h : ∀ piece ∈ pieces, ∀ c ∈ piece, p c = false) {sep : Char} (hsep : p sep = true) :
    splitWhere p ([sep].intercalate pieces) = pieces := by
  induction pieces with
  | nil => exact absurd rfl hne
  | cons piece pieces ih =>
    have hpiece : ∀ c ∈ piece, p c = false := h piece (by simp)
    -- No separator stands behind the last piece.
    cases pieces with
    | nil => rw [List.intercalate_singleton, splitWhere_eq_singleton hpiece]
    | cons next pieces =>
      rw [List.intercalate_cons_cons, List.append_assoc, List.singleton_append,
        splitWhere_append_cons hpiece hsep]
      rw [ih (by simp) fun piece hmem => h piece (List.mem_cons_of_mem _ hmem)]

/-- Cutting is what splitting is in the library of lists. -/
theorem splitWhere_eq_splitOnP (p : Char → Bool) (cs : List Char) :
    splitWhere p cs = cs.splitOnP p := by
  induction cs with
  | nil => rfl
  | cons c cs ih =>
    rw [splitWhere, List.splitOnP_cons_eq_if_modifyHead, ← ih]
    cases hrest : splitWhere p cs with
    | nil => exact absurd hrest (splitWhere_ne_nil p cs)
    | cons piece pieces => rfl

/-- Joining undoes cutting. -/
theorem intercalate_splitWhere (sep : Char) (cs : List Char) :
    [sep].intercalate (splitWhere (· == sep) cs) = cs := by
  rw [splitWhere_eq_splitOnP]
  exact List.intercalate_splitOn sep

end

/-! ### What a text begins and ends with -/

section
variable {p : Char → Bool} {a b mark rest : List Char} {m : Char}

/-- A text is stripped of `start` exactly when it begins with it. -/
theorem stripStart?_eq_some {start cs : List Char} :
    stripStart? start cs = some rest ↔ cs = start ++ rest := by
  induction start generalizing cs with
  | nil => exact Option.some_inj
  | cons s start ih =>
    cases cs with
    | nil => simp [stripStart?]
    | cons c cs =>
      rw [stripStart?, List.cons_append, List.cons.injEq]
      by_cases hc : s = c
      · rw [if_pos hc, ih]
        exact ⟨fun h => ⟨hc.symm, h⟩, fun h => h.2⟩
      · rw [if_neg hc]
        exact iff_of_false (fun h => nomatch h) fun h => hc h.1.symm

/-- A text is stripped of `ending` exactly when it ends with it. -/
theorem stripEnd?_eq_some {ending cs : List Char} :
    stripEnd? ending cs = some rest ↔ cs = rest ++ ending := by
  rw [stripEnd?, Option.map_eq_some_iff]
  constructor
  · rintro ⟨reversed, hstrip, rfl⟩
    rw [← cs.reverse_reverse, stripStart?_eq_some.1 hstrip]
    simp
  · rintro rfl
    exact ⟨rest.reverse, stripStart?_eq_some.2 (by simp), by simp⟩

/-- In front of the first place where `mark` can begin there is nothing to cut. -/
theorem cutThrough?_append_of_not_mem (h : m ∉ a) (b : List Char) :
    cutThrough? (m :: mark) (a ++ b) = cutThrough? (m :: mark) b := by
  induction a with
  | nil => rfl
  | cons c a ih =>
    rw [List.mem_cons, not_or] at h
    rw [List.cons_append, cutThrough?, stripStart?, if_neg h.1, Option.none_or, ih h.2]

/-- A text without the first character of `mark` is not cut. -/
theorem cutThrough?_eq_none (h : m ∉ a) : cutThrough? (m :: mark) a = none := by
  have happend : cutThrough? (m :: mark) (a ++ []) = none := cutThrough?_append_of_not_mem h []
  rwa [List.append_nil] at happend

/-- A text that begins with `mark` is cut behind it. -/
theorem cutThrough?_cons_append (m : Char) (mark b : List Char) :
    cutThrough? (m :: mark) (m :: mark ++ b) = some b := by
  rw [List.cons_append, cutThrough?, ← List.cons_append, stripStart?_eq_some.2 rfl]
  rfl

/-- What is cut off is an end of the text with `mark` in front. -/
theorem exists_of_cutThrough?_eq_some {cs : List Char} (h : cutThrough? mark cs = some rest) :
    ∃ before, cs = before ++ (mark ++ rest) := by
  induction cs with
  | nil =>
    rw [cutThrough?, stripStart?_eq_some] at h
    exact ⟨[], h⟩
  | cons c cs ih =>
    rw [cutThrough?, Option.or_eq_some_iff, stripStart?_eq_some] at h
    rcases h with hhere | ⟨-, hlater⟩
    · exact ⟨[], hhere⟩
    · obtain ⟨before, rfl⟩ := ih hlater
      exact ⟨c :: before, rfl⟩

/-- The first `c` is the one behind a text without it. -/
theorem replaceFirst_append {c d : Char} {before : List Char} (h : c ∉ before)
    (rest : List Char) :
    replaceFirst c d (before ++ c :: rest) = before ++ d :: rest := by
  induction before with
  | nil => exact if_pos rfl
  | cons e before ih =>
    rw [List.mem_cons, not_or] at h
    rw [List.cons_append, replaceFirst, if_neg (Ne.symm h.1), ih h.2]
    rfl

/-- Where there is no `c`, nothing is replaced. -/
theorem replaceFirst_of_not_mem {c d : Char} {cs : List Char} (h : c ∉ cs) :
    replaceFirst c d cs = cs := by
  induction cs with
  | nil => rfl
  | cons e cs ih =>
    rw [List.mem_cons, not_or] at h
    rw [replaceFirst, if_neg (Ne.symm h.1), ih h.2]

/-- Nothing but separators may be left out at the end beforehand. -/
theorem dropEndWhile_append_of_forall (a : List Char) (h : ∀ c ∈ b, p c = true) :
    dropEndWhile p (a ++ b) = dropEndWhile p a := by
  induction b using List.reverseRecOn with
  | nil => rw [List.append_nil]
  | append_singleton b c ih =>
    rw [← List.append_assoc]
    exact (List.rdropWhile_concat_pos _ _ _ (h c (by simp))).trans
      (ih fun c hc => h c (List.mem_append_left _ hc))

/-- A separator may only be left out at the end if nothing but separators follows it. -/
theorem dropEndWhile_append_of_ne_nil (a : List Char) {b : List Char} (h : dropEndWhile p b ≠ []) :
    dropEndWhile p (a ++ b) = a ++ dropEndWhile p b := by
  induction b using List.reverseRecOn with
  | nil => exact absurd rfl h
  | append_singleton b c ih =>
    rw [← List.append_assoc]
    by_cases hc : p c = true
    · have hdrop : dropEndWhile p (b ++ [c]) = dropEndWhile p b :=
        List.rdropWhile_concat_pos _ _ _ hc
      rw [hdrop] at h ⊢
      exact (List.rdropWhile_concat_pos _ _ _ hc).trans (ih h)
    · have hkeep : dropEndWhile p (b ++ [c]) = b ++ [c] := List.rdropWhile_concat_neg _ _ _ hc
      rw [hkeep, ← List.append_assoc]
      exact List.rdropWhile_concat_neg _ _ _ hc

/-- What is left ends with no separator. -/
theorem getLast?_dropEndWhile {cs : List Char} {c : Char}
    (h : (dropEndWhile p cs).getLast? = some c) : p c = false := by
  have hne := List.ne_nil_of_mem (List.mem_of_getLast? h)
  rw [List.getLast?_eq_some_getLast hne, Option.some_inj] at h
  have hnot : ¬ p ((dropEndWhile p cs).getLast hne) = true := List.rdropWhile_last_not _ cs hne
  rwa [h, Bool.not_eq_true] at hnot

/-- What is left of an end is left of the whole. -/
theorem mem_dropEndWhile_append {c : Char} (h : c ∈ dropEndWhile p b) (a : List Char) :
    c ∈ dropEndWhile p (a ++ b) := by
  rw [dropEndWhile_append_of_ne_nil a (List.ne_nil_of_mem h)]
  exact List.mem_append_right a h

/-- Separators of one kind may be dropped at the end before those of a wider kind. -/
theorem dropEndWhile_dropEndWhile {q : Char → Bool} (hqp : ∀ c, q c = true → p c = true)
    (cs : List Char) : dropEndWhile p (dropEndWhile q cs) = dropEndWhile p cs := by
  induction cs using List.reverseRecOn with
  | nil => rfl
  | append_singleton cs c ih =>
    by_cases hc : q c = true
    · have hdrop : dropEndWhile q (cs ++ [c]) = dropEndWhile q cs :=
        List.rdropWhile_concat_pos _ _ _ hc
      rw [hdrop, ih]
      exact (List.rdropWhile_concat_pos _ _ _ (hqp c hc)).symm
    · have hkeep : dropEndWhile q (cs ++ [c]) = cs ++ [c] := List.rdropWhile_concat_neg _ _ _ hc
      rw [hkeep]

/-- What has no separators belongs to the last piece. -/
theorem lastPiece_append_of_forall (a : List Char) (h : ∀ c ∈ b, p c = false) :
    lastPiece p (a ++ b) = lastPiece p a ++ b := by
  induction b using List.reverseRecOn with
  | nil => rw [List.append_nil, List.append_nil]
  | append_singleton b c ih =>
    rw [← List.append_assoc, ← List.append_assoc,
      ← ih fun c hc => h c (List.mem_append_left _ hc)]
    exact List.rtakeWhile_concat_pos _ _ _ (by simp [h c])

/-- The last piece stands behind every separator. -/
theorem lastPiece_append_cons (a : List Char) {sep : Char} (hsep : p sep = true) (b : List Char) :
    lastPiece p (a ++ sep :: b) = lastPiece p b := by
  induction b using List.reverseRecOn with
  | nil => exact List.rtakeWhile_concat_neg _ _ _ (by simp [hsep])
  | append_singleton b c ih =>
    rw [← List.cons_append, ← List.append_assoc]
    cases hc : p c with
    | true =>
      have hnil : ∀ cs, lastPiece p (cs ++ [c]) = [] := fun cs =>
        List.rtakeWhile_concat_neg _ _ _ (by simp [hc])
      rw [hnil, hnil]
    | false =>
      have hlast : ∀ d ∈ [c], p d = false := by simp [hc]
      rw [lastPiece_append_of_forall _ hlast, ih, lastPiece_append_of_forall _ hlast]

/-- A text without separators is its own last piece. -/
theorem lastPiece_eq_self {cs : List Char} (h : ∀ c ∈ cs, p c = false) : lastPiece p cs = cs := by
  have happend := lastPiece_append_of_forall [] h
  rwa [List.nil_append] at happend

/-- In front of the last piece stands the last separator. -/
theorem exists_eq_append_lastPiece {cs : List Char} (h : ∃ c ∈ cs, p c = true) :
    ∃ front sep, p sep = true ∧ cs = front ++ sep :: lastPiece p cs := by
  -- From the end, where the last piece grows.
  induction cs using List.reverseRecOn with
  | nil =>
    obtain ⟨c, hmem, -⟩ := h
    exact nomatch hmem
  | append_singleton cs c ih =>
    cases hc : p c with
    -- The last character is the separator: the piece behind it is empty.
    | true => exact ⟨cs, c, hc, by rw [lastPiece_append_cons cs hc]; rfl⟩
    | false =>
      obtain ⟨d, hmem, hd⟩ := h
      have hmem' : d ∈ cs := by
        rcases List.mem_append.1 hmem with hmem | hmem
        · exact hmem
        · rw [List.mem_singleton.1 hmem, hc] at hd
          exact nomatch hd
      obtain ⟨front, sep, hsep, heq⟩ := ih ⟨d, hmem', hd⟩
      refine ⟨front, sep, hsep, ?_⟩
      rw [lastPiece_append_of_forall cs (by simp [hc]), ← List.cons_append, ← List.append_assoc,
        ← heq]

/-- A text with a separator has the last piece in it, whatever stands in front. -/
theorem lastPiece_append_of_exists (a : List Char) (h : ∃ c ∈ b, p c = true) :
    lastPiece p (a ++ b) = lastPiece p b := by
  obtain ⟨sep, hmem, hsep⟩ := h
  obtain ⟨front, back, rfl⟩ := List.append_of_mem hmem
  rw [← List.append_assoc, lastPiece_append_cons _ hsep, lastPiece_append_cons _ hsep]

/-- A text with another end is not shortened. -/
theorem dropEndWhile_append_of_last (a : List Char) {b : List Char}
    (h : ∃ c, b.getLast? = some c ∧ p c = false) : dropEndWhile p (a ++ b) = a ++ b := by
  obtain ⟨c, hlast, hc⟩ := h
  obtain ⟨front, rfl⟩ := List.getLast?_eq_some_iff.1 hlast
  rw [← List.append_assoc]
  exact List.rdropWhile_concat_neg _ _ _ (by simp [hc])

/-- Replacing characters one by one does not move the separators, if they are kept and no others
come in. -/
theorem lastPiece_flatMap {f : Char → List Char} (hsep : ∀ c, p c = true → f c = [c])
    (hother : ∀ c, p c = false → ∀ d ∈ f c, p d = false) (cs : List Char) :
    lastPiece p (cs.flatMap f) = (lastPiece p cs).flatMap f := by
  induction cs using List.reverseRecOn with
  | nil => rfl
  | append_singleton cs c ih =>
    rw [List.flatMap_append, List.flatMap_singleton]
    cases hc : p c with
    | true => rw [hsep c hc, lastPiece_append_cons _ hc, lastPiece_append_cons _ hc]; rfl
    | false =>
      rw [lastPiece_append_of_forall _ (hother c hc), ih,
        lastPiece_append_of_forall _ (by simp [hc]), List.flatMap_append, List.flatMap_singleton]

/-- The separators at the end stay the same, too, if no other character vanishes. -/
theorem dropEndWhile_flatMap {f : Char → List Char} (hsep : ∀ c, p c = true → f c = [c])
    (hother : ∀ c, p c = false → ∀ d ∈ f c, p d = false) (hne : ∀ c, f c ≠ []) (cs : List Char) :
    dropEndWhile p (cs.flatMap f) = (dropEndWhile p cs).flatMap f := by
  -- From the end, where separators are dropped until another character comes.
  induction cs using List.reverseRecOn with
  | nil => rfl
  | append_singleton cs c ih =>
    rw [List.flatMap_append, List.flatMap_singleton]
    cases hc : p c with
    | true =>
      have hseps : ∀ d ∈ [c], p d = true := by simp [hc]
      rw [hsep c hc, dropEndWhile_append_of_forall _ hseps, ih,
        dropEndWhile_append_of_forall _ hseps]
    | false =>
      -- What stands for `c` is not empty and ends in no separator.
      have hlast : ∃ d, (f c).getLast? = some d ∧ p d = false := by
        obtain ⟨d, hd⟩ := Option.ne_none_iff_exists'.1
          fun h => hne c (List.getLast?_eq_none_iff.1 h)
        exact ⟨d, hd, hother c hc d (List.mem_of_getLast? hd)⟩
      rw [dropEndWhile_append_of_last _ hlast,
        dropEndWhile_append_of_last _ ⟨c, rfl, hc⟩, List.flatMap_append, List.flatMap_singleton]

end

/-! ### Trimming -/

section
variable {p : Char → Bool}

/-- What is trimmed off satisfies the test. -/
theorem exists_eq_append_trimWhile (p : Char → Bool) (cs : List Char) :
    ∃ before after, cs = before ++ (trimWhile p cs ++ after) ∧
      (∀ c ∈ before, p c = true) ∧ ∀ c ∈ after, p c = true := by
  refine ⟨cs.takeWhile p, (cs.dropWhile p).rtakeWhile p, ?_, fun c => List.mem_takeWhile_imp,
    fun c => List.mem_rtakeWhile_imp⟩
  have hback : trimWhile p cs ++ (cs.dropWhile p).rtakeWhile p = cs.dropWhile p :=
    List.rdropWhile_append_rtakeWhile ..
  rw [hback, List.takeWhile_append_dropWhile]

/-- What satisfies the test is trimmed off around a text in which nothing does. -/
theorem trimWhile_append {before cs after : List Char} (hbefore : ∀ c ∈ before, p c = true)
    (hcs : ∀ c ∈ cs, p c = false) (hafter : ∀ c ∈ after, p c = true) :
    trimWhile p (before ++ (cs ++ after)) = cs := by
  rw [trimWhile, List.dropWhile_append_of_pos hbefore]
  cases cs with
  | nil =>
    rw [List.nil_append, List.dropWhile_eq_nil_iff.2 hafter]
    rfl
  | cons c cs =>
    rw [List.cons_append, List.dropWhile_cons_of_neg (by simp [hcs c]), ← List.cons_append,
      dropEndWhile_append_of_forall _ hafter]
    exact List.rdropWhile_eq_self_iff.2 fun hne => by simp [hcs _ (List.getLast_mem hne)]

/-- A text without blanks is not shortened. -/
theorem trimWhile_eq_self {cs : List Char} (h : ∀ c ∈ cs, p c = false) : trimWhile p cs = cs := by
  have happend : trimWhile p ([] ++ (cs ++ [])) = cs :=
    trimWhile_append (List.forall_mem_nil _) h (List.forall_mem_nil _)
  rwa [List.nil_append, List.append_nil] at happend

end

/-! ### Numerals -/

/-- Numbers are written in digits. -/
theorem isDigit_of_mem_toDigits {n : Nat} {c : Char} (h : c ∈ Nat.toDigits 10 n) :
    isDigit c = true := by
  have hdigit : c.isDigit = true := Nat.isDigit_of_mem_toDigits (by omega) (by omega) h
  exact hdigit

/-- No digit is blank. -/
theorem isBlank_of_isDigit {c : Char} (h : isDigit c = true) : isBlank c = false := by
  simp only [isDigit, Bool.and_eq_true, decide_eq_true_eq, Char.le_def] at h
  have hlow : 48 ≤ c.toNat := h.1
  have hhigh : c.toNat ≤ 57 := h.2
  simp [isBlank]
  omega

/-- A numeral is one or more digits, and is read as the number that they stand for. -/
theorem numeral?_eq_some {cs : List Char} {n : Nat} :
    numeral? cs = some n ↔
      cs ≠ [] ∧ (∀ c ∈ cs, c.isDigit = true) ∧ Nat.ofDigitChars 10 cs 0 = n := by
  have hdigits : cs.all isDigit = true ↔ ∀ c ∈ cs, c.isDigit = true := List.all_eq_true
  have hvalue : digitsValue cs = Nat.ofDigitChars 10 cs 0 := rfl
  simp [numeral?, hdigits, hvalue, and_assoc]

/-- A number is read from its digits. -/
theorem numeral?_toDigits (n : Nat) : numeral? (Nat.toDigits 10 n) = some n :=
  numeral?_eq_some.2 ⟨Nat.toDigits_ne_nil, fun _ => isDigit_of_mem_toDigits,
    Nat.ofDigitChars_toDigits (by omega) (by omega)⟩

/-- No number of several digits begins with a zero. -/
theorem toDigits_ne_zero_cons (n : Nat) (c : Char) (rest : List Char) :
    Nat.toDigits 10 n ≠ '0' :: c :: rest := by
  induction n using Nat.strongRecOn generalizing c rest with
  | _ n ih =>
    intro heq
    rw [Nat.toDigits_eq_if (by omega)] at heq
    split at heq
    · simp at heq
    · next hge =>
      cases hfront : Nat.toDigits 10 (n / 10) with
      | nil => exact Nat.toDigits_ne_nil hfront
      | cons d ds =>
        rw [hfront, List.cons_append] at heq
        obtain ⟨rfl, -⟩ := List.cons.inj heq
        cases ds with
        | nil =>
          -- All but the last digit are a zero, so there are no tens.
          have hvalue := numeral?_toDigits (n / 10)
          rw [hfront] at hvalue
          simp [numeral?, digitsValue, isDigit] at hvalue
          omega
        | cons e es => exact ih (n / 10) (by omega) e es hfront

/-! ### Rows of numbers -/

/-- Numbers with dots between them. -/
def dotted (ns : List Nat) : List Char := ['.'].intercalate (ns.map (Nat.toDigits 10))

/-- Numbers with dots between them as a text. -/
theorem toList_intercalate_decimal (ns : List Nat) :
    (".".intercalate (ns.map decimal)).toList = dotted ns := by
  simp [String.toList_intercalate, dotted, decimal, Function.comp_def]

/-- A row of numbers consists of dots and digits. -/
theorem mem_dotted {ns : List Nat} : ∀ c ∈ dotted ns, c = '.' ∨ isDigit c = true := by
  apply List.forall_mem_intercalate
  · exact fun c hc => .inl (List.mem_singleton.1 hc)
  · intro piece hmem c hc
    obtain ⟨n, -, rfl⟩ := List.mem_map.1 hmem
    exact .inr (isDigit_of_mem_toDigits hc)

/-- The pieces of a row of numbers are the numbers. -/
theorem splitWhere_dotted {ns : List Nat} (hne : ns ≠ []) :
    splitWhere (· == '.') (dotted ns) = ns.map (Nat.toDigits 10) := by
  apply splitWhere_intercalate
  · simpa using hne
  · intro piece hmem c hc
    obtain ⟨n, -, rfl⟩ := List.mem_map.1 hmem
    rw [beq_eq_false_iff_ne]
    rintro rfl
    exact absurd (isDigit_of_mem_toDigits hc) (by decide)
  · rfl

end ModuleGraph.Text
