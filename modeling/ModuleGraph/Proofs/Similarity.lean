import ModuleGraph.Similarity
import ModuleGraph.Proofs.EditDistance

/-!
# Which similar name is proposed

The search for a similar name keeps the best candidate so far, and a candidate that is no nearer
does not replace it.  So the first of the nearest candidates is proposed, if one is within the
tolerance. The name itself is the nearest candidate of all, where it is among them.

## Key results

- `Similarity.best_foldl`: what the search has found after some candidates
- `Similarity.byEdits_eq_some`, `Similarity.byEdits_eq_none`: what is proposed in the end
- `Similarity.FirstNearest.find?_eq`: names that differ in letter case only come first
- `Similarity.byEdits_nearest`: what is proposed, and how near it is
-/

namespace ModuleGraph.Similarity

variable {name pick pick' c : String} {candidates seen : List String}

/-- No edits are between names that differ in letter case only, and between no others. -/
theorem distance_eq_zero_iff :
    distance name c = 0 ↔ Text.lowercase name = Text.lowercase c := by
  rw [distance, Text.tableDistance_eq, Text.editDistance_eq_zero_iff, String.toList_inj]

/-- The first of the nearest candidates: those before it are farther off, those after it no nearer,
and it is within the tolerance. -/
structure FirstNearest (name : String) (candidates : List String) (pick : String) : Prop where
  near : distance name pick ≤ tolerance name
  first : ∃ before after, candidates = before ++ pick :: after ∧
    (∀ c ∈ before, distance name pick < distance name c) ∧
    ∀ c ∈ after, distance name pick ≤ distance name c

/-- The first of the nearest candidates is one of them. -/
theorem FirstNearest.mem (h : FirstNearest name candidates pick) : pick ∈ candidates := by
  obtain ⟨before, after, rfl, -⟩ := h.first
  simp

/-- No candidate is nearer. -/
theorem FirstNearest.le (h : FirstNearest name candidates pick) (hc : c ∈ candidates) :
    distance name pick ≤ distance name c := by
  obtain ⟨before, after, rfl, hbefore, hafter⟩ := h.first
  rcases List.mem_append.1 hc with hc | hc
  · exact Nat.le_of_lt (hbefore c hc)
  · rcases List.mem_cons.1 hc with rfl | hc
    · exact Nat.le_refl _
    · exact hafter c hc

/-- The first of the nearest candidates is the first one that is as near. -/
theorem FirstNearest.find?_le (h : FirstNearest name candidates pick) :
    candidates.find? (fun c => distance name c ≤ distance name pick) = some pick := by
  obtain ⟨before, after, rfl, hbefore, -⟩ := h.first
  refine List.find?_eq_some_iff_append.2 ⟨by simp, before, after, rfl, fun c hc => ?_⟩
  simpa using hbefore c hc

/-- There is one first of the nearest candidates at most. -/
theorem FirstNearest.unique (h : FirstNearest name candidates pick)
    (h' : FirstNearest name candidates pick') : pick = pick' := by
  have hsame : distance name pick = distance name pick' :=
    Nat.le_antisymm (h.le h'.mem) (h'.le h.mem)
  have hfirst := h.find?_le
  rw [hsame, h'.find?_le] at hfirst
  exact (Option.some.inj hfirst).symm

/-- One more candidate that is no nearer changes nothing. -/
theorem FirstNearest.snoc (h : FirstNearest name seen pick)
    (hc : distance name pick ≤ distance name c) : FirstNearest name (seen ++ [c]) pick := by
  obtain ⟨before, after, rfl, hbefore, hafter⟩ := h.first
  exact ⟨h.near, before, after ++ [c], by simp, hbefore,
    List.forall_mem_append.2 ⟨hafter, List.forall_mem_singleton.2 hc⟩⟩

/-- Where the name itself is a candidate, but for letter case, the first such candidate is the first
of the nearest. -/
theorem FirstNearest.find?_eq (h : FirstNearest name candidates pick) (hc : c ∈ candidates)
    (hsame : Text.lowercase c = Text.lowercase name) :
    candidates.find? (fun c => Text.lowercase c = Text.lowercase name) = some pick := by
  have hle := h.le hc
  rw [distance_eq_zero_iff.2 hsame.symm, Nat.le_zero] at hle
  have hfirst := h.find?_le
  rw [hle] at hfirst
  simpa only [Nat.le_zero, distance_eq_zero_iff, eq_comm (a := Text.lowercase name)] using hfirst

/-! ### The search -/

/-- What the search knows when it has seen some candidates. -/
inductive Best (name : String) (seen : List String) : Option (String × Nat) → Prop
  /-- None of them is within the tolerance. -/
  | none (hfar : ∀ c ∈ seen, tolerance name < distance name c) : Best name seen none
  /-- The first of the nearest is kept, with its distance. -/
  | some (pick : String) (hfirst : FirstNearest name seen pick) :
      Best name seen (some (pick, distance name pick))

/-- The search sees one more candidate. -/
theorem best_better {best : Option (String × Nat)} (h : Best name seen best) (c : String) :
    Best name (seen ++ [c]) (better name best c) := by
  unfold better
  dsimp only
  by_cases hfar : tolerance name < distance name c
  · rw [if_pos hfar]
    -- What is too far off is no nearer than a candidate that is kept.
    cases h with
    | none hnone =>
      exact .none (List.forall_mem_append.2 ⟨hnone, List.forall_mem_singleton.2 hfar⟩)
    | some pick hfirst =>
      exact .some pick (hfirst.snoc (Nat.le_trans hfirst.near (Nat.le_of_lt hfar)))
  · rw [if_neg hfar]
    have hnear : distance name c ≤ tolerance name := Nat.le_of_not_lt hfar
    -- A candidate that is nearer than all before it becomes the best one.
    have hnew (hall : ∀ x ∈ seen, distance name c < distance name x) :
        FirstNearest name (seen ++ [c]) c :=
      ⟨hnear, seen, [], rfl, hall, fun _ hx => nomatch hx⟩
    cases h with
    | none hnone => exact .some c (hnew fun x hx => Nat.lt_of_le_of_lt hnear (hnone x hx))
    | some pick hfirst =>
      dsimp only
      by_cases hle : distance name pick ≤ distance name c
      · rw [if_pos hle]
        exact .some pick (hfirst.snoc hle)
      · rw [if_neg hle]
        have hlt : distance name c < distance name pick := Nat.lt_of_not_le hle
        exact .some c (hnew fun x hx => Nat.lt_of_lt_of_le hlt (hfirst.le hx))

/-- The search sees all candidates, one after the other. -/
theorem best_foldl (name : String) (candidates : List String) :
    Best name candidates (candidates.foldl (better name) none) := by
  -- From the end, for what is known is about the candidates seen so far.
  induction candidates using List.reverseRecOn with
  | nil => exact .none fun _ hc => nomatch hc
  | append_singleton seen c ih =>
    rw [List.foldl_append, List.foldl_cons, List.foldl_nil]
    exact best_better ih c

/-- Nothing is proposed exactly if no candidate is within the tolerance. -/
theorem byEdits_eq_none :
    byEdits name candidates = none ↔ ∀ c ∈ candidates, tolerance name < distance name c := by
  have hfound := best_foldl name candidates
  rw [byEdits, Option.map_eq_none_iff]
  constructor
  · intro hnone
    rw [hnone] at hfound
    cases hfound with
    | none hfar => exact hfar
  · intro hfar
    cases hbest : candidates.foldl (better name) none with
    | none => rfl
    | some entry =>
      rw [hbest] at hfound
      cases hfound with
      | some pick hfirst => exact absurd hfirst.near (Nat.not_le.2 (hfar pick hfirst.mem))

/-- What is proposed is the first of the nearest candidates. -/
theorem byEdits_eq_some :
    byEdits name candidates = some pick ↔ FirstNearest name candidates pick := by
  have hsound {pick : String} (h : byEdits name candidates = some pick) :
      FirstNearest name candidates pick := by
    obtain ⟨entry, hbest, rfl⟩ := Option.map_eq_some_iff.1 h
    have hfound := best_foldl name candidates
    rw [hbest] at hfound
    cases hfound with
    | some pick hfirst => exact hfirst
  refine ⟨hsound, fun hfirst => ?_⟩
  -- Something is proposed, as there is a candidate within the tolerance.
  cases hpick : byEdits name candidates with
  | none => exact absurd hfirst.near (Nat.not_le.2 (byEdits_eq_none.1 hpick pick hfirst.mem))
  | some pick' => rw [(hsound hpick).unique hfirst]

/-- Nothing is proposed exactly if every candidate is farther off than the tolerance; otherwise it
is the first candidate in the list that is no farther off than any other.  How far off a candidate
is means the least number of insertions, deletions and substitutions of single characters between
the names in small letters. -/
theorem byEdits_nearest (name : String) (candidates : List String) :
    (byEdits name candidates = none ↔ ∀ c ∈ candidates, tolerance name < distance name c) ∧
    (∀ pick, byEdits name candidates = some pick ↔ FirstNearest name candidates pick) ∧
    ∀ c, IsLeast {n | Text.Edits n (Text.lowercase name).toList (Text.lowercase c).toList}
      (distance name c) := by
  refine ⟨byEdits_eq_none, fun pick => byEdits_eq_some, fun c => ?_⟩
  rw [distance, Text.tableDistance_eq]
  exact Text.editDistance_isLeast _ _

/-- Of two candidates that are one edit off, the first is proposed, whatever its letter case. -/
example : byEdits "Foo" ["Bar", "FOO2", "Fooo"] = some "FOO2" := by decide +kernel

end ModuleGraph.Similarity
