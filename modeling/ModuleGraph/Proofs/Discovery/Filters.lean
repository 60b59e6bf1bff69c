import ModuleGraph.ProductFilter
import ModuleGraph.Proofs.KeyedSet

/-!
# How product filters grow

Joining a filter to another one gives a filter that has both, and it is a new one exactly if the
filter has grown.  A filter of names from a finite stock can only grow so often, which `slack`
counts.

## Key results

- `eq_union_iff`: a joined filter is the least one that has both of its parts
- `growsBy_iff`: growing is becoming another filter
- `slack_union_lt`: growing takes away slack
-/

namespace ModuleGraph.ProductFilter

/-- Whether everything that one filter needs is needed by the other. -/
def Within : ProductFilter → ProductFilter → Prop
  | _, .everything => True
  | .everything, .only _ => False
  | .only a, .only b => ∀ x ∈ a.toList, x ∈ b.toList

/-- Every filter is within itself. -/
theorem Within.refl (f : ProductFilter) : f.Within f := by
  cases f with
  | everything => trivial
  | only names => exact fun _ hx => hx

/-- What is within a filter is within all filters that this one is within. -/
theorem Within.trans {f g h : ProductFilter} (hfg : f.Within g) (hgh : g.Within h) :
    f.Within h := by
  match f, g, h with
  | _, _, .everything => trivial
  | .everything, .only _, .only _ => exact hfg.elim
  | _, .everything, .only _ => exact hgh.elim
  | .only _, .only _, .only _ => exact fun x hx => hgh x (hfg x hx)

/-- A joined filter has the first of its parts. -/
theorem within_union_left (f g : ProductFilter) : f.Within (f.union g) := by
  match f, g with
  | .everything, _ => trivial
  | .only _, .everything => trivial
  | .only _, .only _ => exact fun _ hx => SortedSet.mem_union.2 (.inl hx)

/-- A joined filter has the second of its parts. -/
theorem within_union_right (f g : ProductFilter) : g.Within (f.union g) := by
  match f, g with
  | .everything, _ => trivial
  | .only _, .everything => trivial
  | .only _, .only _ => exact fun _ hx => SortedSet.mem_union.2 (.inr hx)

/-- Filters that are within each other are the same. -/
theorem Within.antisymm {f g : ProductFilter} (hfg : f.Within g) (hgf : g.Within f) : f = g := by
  match f, g with
  | .everything, .everything => rfl
  | .everything, .only _ => exact hfg.elim
  | .only _, .everything => exact hgf.elim
  | .only a, .only b =>
    exact congrArg only (KeyedSet.eq_of_mem_iff fun x => ⟨hfg x, hgf x⟩)

/-- A joined filter is within all filters that have both of its parts. -/
theorem union_within {f g h : ProductFilter} (hf : f.Within h) (hg : g.Within h) :
    (f.union g).Within h := by
  match f, g, h with
  | _, _, .everything => trivial
  | .everything, _, .only _ => exact hf
  | .only _, .everything, .only _ => exact hg
  | .only _, .only _, .only _ => exact fun x hx => (SortedSet.mem_union.1 hx).elim (hf x) (hg x)

/-- A joined filter is the least one that has both of its parts. -/
theorem eq_union_iff {f g h : ProductFilter} :
    h = f.union g ↔
      (f.Within h ∧ g.Within h) ∧ ∀ k, f.Within k → g.Within k → h.Within k := by
  constructor
  · rintro rfl
    exact ⟨⟨within_union_left f g, within_union_right f g⟩, fun k => union_within⟩
  · rintro ⟨⟨hf, hg⟩, hleast⟩
    have hle : h.Within (f.union g) := hleast _ (within_union_left f g) (within_union_right f g)
    exact hle.antisymm (union_within hf hg)

/-- A filter that has not grown is the same. -/
theorem union_eq_of_not_growsBy {f g : ProductFilter} (h : f.growsBy g = false) :
    f.union g = f := by
  match f, g with
  | .everything, _ => rfl
  | .only _, .everything => exact nomatch h
  | .only a, .only b =>
    have hsize : (a.union b).size = a.size := by simpa [growsBy] using h
    have heq := SortedSet.eq_of_subset_of_size_le
      (fun x (hx : x ∈ a.toList) => SortedSet.mem_union.2 (.inl hx)) hsize.le
    rw [union, ← heq]

/-- Growing is becoming another filter. -/
theorem growsBy_iff {f g : ProductFilter} : f.growsBy g = true ↔ f.union g ≠ f := by
  refine ⟨fun hgrows hsame => ?_, fun hne => ?_⟩
  · match f, g with
    | .everything, _ => exact nomatch hgrows
    | .only _, .everything => exact nomatch hsame
    | .only a, .only b =>
      have hunion : a.union b = a := only.inj hsame
      simp [growsBy, hunion] at hgrows
  · cases hgrows : f.growsBy g with
    | true => rfl
    | false => exact absurd (union_eq_of_not_growsBy hgrows) hne

/-- The names of a filter are from a stock. -/
def DrawsOn (stock : List String) : ProductFilter → Prop
  | .everything => True
  | .only names => ∀ x ∈ names.toList, x ∈ stock

/-- A joined filter has no other names than its parts. -/
theorem DrawsOn.union {stock : List String} {f g : ProductFilter} (hf : f.DrawsOn stock)
    (hg : g.DrawsOn stock) : (f.union g).DrawsOn stock := by
  match f, g with
  | .everything, _ => trivial
  | .only _, .everything => trivial
  | .only _, .only _ => exact fun x hx => (SortedSet.mem_union.1 hx).elim (hf x) (hg x)

/-- How often a filter can still grow, or be set, when there are `bound` names. -/
def slack (bound : Nat) : Option ProductFilter → Nat
  | none => bound + 3
  | some .everything => 0
  | some (.only names) => bound + 2 - names.size

/-- Setting a filter takes away slack. -/
theorem slack_some_lt (bound : Nat) (f : ProductFilter) :
    slack bound (some f) < slack bound none := by
  cases f with
  | everything => simp [slack]
  | only names =>
    simp only [slack]
    omega

/-- Growing takes away slack. -/
theorem slack_union_lt {stock : List String} {f g : ProductFilter}
    (hf : f.DrawsOn stock) (hg : g.DrawsOn stock) (h : f.growsBy g = true) :
    slack stock.length (some (f.union g)) < slack stock.length (some f) := by
  match f, g with
  | .everything, _ => exact nomatch h
  | .only a, .everything =>
    have hsize := SortedSet.size_le_of_subset hf
    simp only [union, slack]
    omega
  | .only a, .only b =>
    have hle : a.size ≤ (a.union b).size :=
      SortedSet.size_le_of_subset fun x hx => SortedSet.mem_union.2 (.inl hx)
    have hne : (a.union b).size ≠ a.size := by simpa [growsBy] using h
    have hsize : (a.union b).size ≤ stock.length := SortedSet.size_le_of_subset (hf.union hg)
    simp only [union, slack]
    omega

end ModuleGraph.ProductFilter
