import ModuleGraph.Proofs.Loop
import ModuleGraph.Proofs.PackageView

/-!
# What a package depends on through others

A package depends on others directly, along edges, and through them on more.  The search expands the
packages that are pending one by one, and what is found for the first time is pending next.  So it
ends, also where dependencies are cyclic, and it finds exactly what a path of edges leads to.  The
package itself is found where it is on a cycle, and left out in the end.

## Key results

- `expandNext_next`: what one step does
- `Closing.next`: what a step keeps
- `packagesLeft_next`: the search ends
- `mem_transitive`: what a package depends on through others
- `madeBy_relates`: direct and transitive dependencies after any calls
-/

namespace ModuleGraph.PackageView

open Relation (TransGen)

/-- What holds before every step of a search: only what a path leads to has been found, what is
pending has been found or is the start, and what these depend on has been found unless they are
pending. -/
structure Closing (v : PackageView) (start : Identity) (s : Closure) : Prop where
  reached : ∀ a ∈ s.found.toList, TransGen v.HasEdge start a
  met : ∀ a ∈ s.pending, a = start ∨ a ∈ s.found.toList
  closed : ∀ a, a = start ∨ a ∈ s.found.toList →
    a ∈ s.pending ∨ ∀ b, v.HasEdge a b → b ∈ s.found.toList

/-- The packages that may still be expanded: those that are pending, and those that have not been
found. -/
def packagesLeft (v : PackageView) (s : Closure) : Nat :=
  s.pending.length + (v.packages.filter fun a => !s.found.contains a).length

variable {v : PackageView} {s s' : Closure} {a b start : Identity}

/-! ### One more dependency -/

/-- A dependency that is met has been found. -/
theorem mem_found_meet : b ∈ (s.meet a).found.toList ↔ b ∈ s.found.toList ∨ b = a := by
  rw [Closure.meet]
  split
  · next hold =>
    rw [SortedSet.contains_iff_mem] at hold
    exact ⟨.inl, fun h => h.elim id fun heq => heq ▸ hold⟩
  · rw [SortedSet.mem_insert, or_comm]

/-- A dependency that is met is pending if it is new. -/
theorem mem_pending_meet :
    b ∈ (s.meet a).pending ↔ b ∈ s.pending ∨ b = a ∧ b ∉ s.found.toList := by
  rw [Closure.meet]
  split
  · next hold =>
    rw [SortedSet.contains_iff_mem] at hold
    exact ⟨.inl, fun h => h.elim id fun h => absurd (h.1 ▸ hold) h.2⟩
  · next hnew =>
    rw [SortedSet.contains_iff_mem] at hnew
    rw [List.mem_cons, or_comm]
    exact or_congr_right ⟨fun heq => ⟨heq, heq ▸ hnew⟩, And.left⟩

/-- Dependencies that are met have been found. -/
theorem mem_found_foldl_meet {ids : List Identity} :
    b ∈ (ids.foldl Closure.meet s).found.toList ↔ b ∈ s.found.toList ∨ b ∈ ids := by
  induction ids generalizing s with
  | nil => exact (or_iff_left List.not_mem_nil).symm
  | cons a ids ih => rw [List.foldl_cons, ih, mem_found_meet, List.mem_cons, or_assoc]

/-- Dependencies that are met are pending if they are new. -/
theorem mem_pending_foldl_meet {ids : List Identity} :
    b ∈ (ids.foldl Closure.meet s).pending ↔ b ∈ s.pending ∨ b ∈ ids ∧ b ∉ s.found.toList := by
  induction ids generalizing s with
  | nil => exact (or_iff_left fun h => List.not_mem_nil h.1).symm
  | cons a ids ih =>
    rw [List.foldl_cons, ih, mem_pending_meet, mem_found_meet, List.mem_cons]
    constructor
    · rintro ((h | ⟨heq, hnew⟩) | ⟨hmem, hnew⟩)
      · exact .inl h
      · exact .inr ⟨.inl heq, hnew⟩
      · exact .inr ⟨.inr hmem, fun h => hnew (.inl h)⟩
    · rintro (h | ⟨heq | hmem, hnew⟩)
      · exact .inl (.inl h)
      · exact .inl (.inr ⟨heq, hnew⟩)
      · -- If `b` is met twice, it becomes pending at its first place.
        by_cases heq : b = a
        · exact .inl (.inr ⟨heq, hnew⟩)
        · exact .inr ⟨hmem, not_or.2 ⟨hnew, heq⟩⟩

/-- A dependency that becomes pending has been left to find. -/
theorem packagesLeft_meet (ha : a ∈ v.packages) :
    v.packagesLeft (s.meet a) ≤ v.packagesLeft s := by
  rw [Closure.meet]
  split
  · exact le_rfl
  · next hnew =>
    -- Finding `a` takes it, and nothing else, from those left to find.
    have hfewer : ∀ x ∈ v.packages, (!(s.found.insert a).contains x) = true →
        (!s.found.contains x) = true := by
      intro x _ hx
      simp only [Bool.not_eq_true', Bool.eq_false_iff] at hx ⊢
      exact fun hold => hx (KeyedSet.contains_insert.2 (.inr hold))
    have hnow : (!(s.found.insert a).contains a) = false := by
      rw [Bool.not_eq_false']
      exact KeyedSet.contains_insert.2 (.inl rfl)
    have hsum := List.sum_filter_add_le v.packages (fun _ => 1) (fun x => !s.found.contains x)
      (fun x => !(s.found.insert a).contains x) hfewer a ha (by simp [hnew]) hnow
    simp only [List.map_const', List.sum_replicate_nat, mul_one] at hsum
    simp only [packagesLeft, List.length_cons]
    omega

/-- Meeting dependencies leaves no more packages than before. -/
theorem packagesLeft_foldl_meet {ids : List Identity} (h : ∀ a ∈ ids, a ∈ v.packages) :
    v.packagesLeft (ids.foldl Closure.meet s) ≤ v.packagesLeft s := by
  induction ids generalizing s with
  | nil => exact le_rfl
  | cons a ids ih =>
    exact (ih fun b hb => h b (List.mem_cons_of_mem a hb)).trans
      (packagesLeft_meet (h a List.mem_cons_self))

/-! ### One step -/

/-- A step that goes on meets the dependencies of the next package. -/
theorem expandNext_next (h : v.expandNext s = .next s') :
    ∃ a pending, s.pending = a :: pending ∧
      s' = (v.dependencies a).foldl Closure.meet { s with pending } := by
  unfold expandNext at h
  split at h
  · exact nomatch h
  · next a pending hpending =>
    cases h
    exact ⟨a, pending, hpending, rfl⟩

/-- The last step has nothing pending, and gives what has been found. -/
theorem expandNext_done {found : SortedSet Identity} (h : v.expandNext s = .done found) :
    s.pending = [] ∧ found = s.found := by
  unfold expandNext at h
  split at h
  · next hpending =>
    cases h
    exact ⟨hpending, rfl⟩
  · exact nomatch h

/-- At first the start is pending, and nothing has been found. -/
theorem closing_start (v : PackageView) (start : Identity) :
    v.Closing start ⟨[start], KeyedSet.empty⟩ where
  reached := fun _ ha => nomatch ha
  met := fun _ ha => .inl (List.mem_singleton.1 ha)
  closed := fun _ ha => ha.elim (fun heq => .inl (List.mem_singleton.2 heq)) fun h => nomatch h

/-- A step keeps the invariant. -/
theorem Closing.next (hs : v.Closing start s) (h : v.expandNext s = .next s') :
    v.Closing start s' := by
  obtain ⟨a, pending, hpending, rfl⟩ := expandNext_next h
  have hmet : a = start ∨ a ∈ s.found.toList := hs.met a (by simp [hpending])
  have hstep {b : Identity} (hb : v.HasEdge a b) : TransGen v.HasEdge start b := by
    rcases hmet with rfl | hfound
    · exact .single hb
    · exact .tail (hs.reached a hfound) hb
  constructor
  · intro b hb
    rw [mem_found_foldl_meet, mem_dependencies] at hb
    exact hb.elim (hs.reached b) hstep
  · intro b hb
    rw [mem_pending_foldl_meet] at hb
    rw [mem_found_foldl_meet]
    rcases hb with hb | ⟨hb, -⟩
    · exact (hs.met b (by simp [hpending, hb])).imp_right .inl
    · exact .inr (.inr hb)
  · intro b hb
    simp only [mem_found_foldl_meet, mem_pending_foldl_meet, mem_dependencies] at hb ⊢
    by_cases hold : b = start ∨ b ∈ s.found.toList
    · rcases hs.closed b hold with hb | hclosed
      · rw [hpending, List.mem_cons] at hb
        rcases hb with rfl | hb
        · exact .inr fun c hc => .inr hc
        · exact .inl (.inl hb)
      · exact .inr fun c hc => .inl (hclosed c hc)
    · -- What has been found by this step is pending.
      obtain ⟨hne, hnew⟩ := not_or.1 hold
      exact .inl (.inr ⟨(hb.resolve_left hne).resolve_left hnew, hnew⟩)

/-- With every step fewer packages are left. -/
theorem packagesLeft_next (h : v.expandNext s = .next s') :
    v.packagesLeft s' < v.packagesLeft s := by
  obtain ⟨a, pending, hpending, rfl⟩ := expandNext_next h
  have hle : v.packagesLeft ((v.dependencies a).foldl Closure.meet { s with pending }) ≤
      v.packagesLeft { s with pending } :=
    packagesLeft_foldl_meet fun b hb => (mem_dependencies.1 hb).target_mem
  refine hle.trans_lt ?_
  simp only [packagesLeft, hpending, List.length_cons]
  omega

/-! ### All steps -/

/-- The search for dependencies ends, however the packages depend on each other: its bound
suffices. -/
theorem transitive_ends (v : PackageView) (start : Identity) :
    ∃ found, Loop.Ends v.expandNext ⟨[start], KeyedSet.empty⟩ found ∧
      v.transitive start = found.erase start := by
  have hbound : v.packagesLeft ⟨[start], KeyedSet.empty⟩ < v.packages.length + 2 := by
    have hle := List.length_filter_le (fun a => !(KeyedSet.empty : SortedSet Identity).contains a)
      v.packages
    simp only [packagesLeft, List.length_singleton]
    omega
  exact ⟨_, Loop.ends_getD v.packagesLeft (fun _ _ => packagesLeft_next) hbound _, rfl⟩

/-- A search finds what a path leads to. -/
theorem mem_found {found : SortedSet Identity}
    (h : Loop.Ends v.expandNext ⟨[start], KeyedSet.empty⟩ found) :
    b ∈ found.toList ↔ TransGen v.HasEdge start b := by
  refine h.post (v.Closing start)
    (fun found => b ∈ found.toList ↔ TransGen v.HasEdge start b)
    (fun s s' hs hnext => hs.next hnext) ?_ (v.closing_start start)
  intro s found hs hdone
  obtain ⟨hpending, rfl⟩ := expandNext_done hdone
  -- Nothing is pending, so what the start and the packages found depend on has been found.
  have hclosed {a b : Identity} (ha : a = start ∨ a ∈ s.found.toList) (hb : v.HasEdge a b) :
      b ∈ s.found.toList := by
    rcases hs.closed a ha with hmem | hall
    · rw [hpending] at hmem
      exact nomatch hmem
    · exact hall b hb
  refine ⟨hs.reached b, fun hpath => ?_⟩
  induction hpath with
  | single hedge => exact hclosed (.inl rfl) hedge
  | tail _ hedge ih => exact hclosed (.inr ih) hedge

/-- A package depends, directly or through others, on what a path from it leads to, the package
itself left out. -/
theorem mem_transitive :
    b ∈ (v.transitive start).toList ↔ b ≠ start ∧ TransGen v.HasEdge start b := by
  obtain ⟨found, hends, htransitive⟩ := v.transitive_ends start
  rw [htransitive, KeyedSet.mem_erase, mem_found hends, and_comm]
  rfl

/-- After any calls, what a package depends on is listed in strictly ascending order and consists of
the packages to which an edge has been added from it when both were there; dependents are the same
relation read the other way.  The search for what a package depends on through others ends, whether
there are cycles or not, and gives the other packages that one or more of these edges lead to. -/
theorem madeBy_relates (calls : List Call) (a b : Identity) :
    ((madeBy calls).dependencies a).Pairwise (fun x y => compare x y = .lt) ∧
      (b ∈ (madeBy calls).dependencies a ↔ Joins calls a b) ∧
      (b ∈ (madeBy calls).dependencies a ↔ a ∈ (madeBy calls).dependents b) ∧
      (∃ found, Loop.Ends (madeBy calls).expandNext ⟨[a], KeyedSet.empty⟩ found ∧
        (madeBy calls).transitive a = found.erase a) ∧
      (b ∈ ((madeBy calls).transitive a).toList ↔ b ≠ a ∧ TransGen (Joins calls) a b) := by
  have hv := wellFormed_madeBy calls
  have hedges : (madeBy calls).HasEdge = Joins calls :=
    funext₂ fun x y => propext hasEdge_madeBy
  refine ⟨hv.pairwise_neighbors .outgoing a, ?_, ?_, (madeBy calls).transitive_ends a, ?_⟩
  · rw [mem_dependencies, hedges]
  · rw [mem_dependencies, hv.mem_dependents]
  · rw [mem_transitive, hedges]

/-- A package that is found behind itself is left out. -/
example :
    ((madeBy [.addPackage ⟨"app"⟩, .addPackage ⟨"kit"⟩, .addEdge ⟨"app"⟩ ⟨"kit"⟩,
      .addEdge ⟨"kit"⟩ ⟨"app"⟩]).transitive ⟨"app"⟩).toList = [⟨"kit"⟩] := by
  decide +kernel

end ModuleGraph.PackageView
