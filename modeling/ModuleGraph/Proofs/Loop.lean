import ModuleGraph.Loop

/-!
# Loops without a bound

A loop is run with a bound on its steps, which has no part in what the loop does.  `Loop.Ends`
leaves the bound out: the loop makes as many steps as it needs.  It ends if something becomes
smaller with every step, and it has one result at most.

## Key results

- `Loop.Ends.unique`: there is one result at most
- `Loop.ends_getD`: a loop with a sufficient bound ends with what it gives
- `Loop.Ends.post`: what every step keeps tells what the result is
-/

namespace ModuleGraph.Loop

variable {σ ρ : Type}

/-- The loop ends with a result, however many steps that takes. -/
def Ends (step : σ → Step σ ρ) (s : σ) (r : ρ) : Prop :=
  ∃ n, Loop.run step n s = some r

/-- A loop ends with one result at most. -/
theorem Ends.unique {step : σ → Step σ ρ} {s : σ} {r r' : ρ} (h : Ends step s r)
    (h' : Ends step s r') : r = r' := by
  obtain ⟨n, hn⟩ := h
  obtain ⟨m, hm⟩ := h'
  -- The longer of the two runs has both results.
  have hr := Loop.run_mono hn (Nat.le_max_left n m)
  have hr' := Loop.run_mono hm (Nat.le_max_right n m)
  rw [hr] at hr'
  exact Option.some.inj hr'

/-- A last step ends the loop with its result. -/
theorem Ends.done {step : σ → Step σ ρ} {s : σ} {r : ρ} (h : step s = .done r) : Ends step s r :=
  ⟨1, Loop.run_done h 0⟩

/-- A loop ends as it does after a step that goes on. -/
theorem Ends.next {step : σ → Step σ ρ} {s s' : σ} {r : ρ} (h : step s = .next s')
    (hends : Ends step s' r) : Ends step s r := by
  obtain ⟨n, hn⟩ := hends
  exact ⟨n + 1, (Loop.run_next h n).trans hn⟩

/-- With a bound above a measure that falls with every step, a loop ends with what it gives, so the
value for a bound that is too small has no part in it. -/
theorem ends_getD {step : σ → Step σ ρ} (measure : σ → Nat)
    (hfalls : ∀ s s', step s = .next s' → measure s' < measure s) {n : Nat} {s : σ}
    (hn : measure s < n) (r : ρ) : Ends step s ((Loop.run step n s).getD r) := by
  have hsome : (Loop.run step n s).isSome :=
    Loop.run_isSome (fun _ => True) measure (fun s s' _ h => ⟨trivial, hfalls s s' h⟩) trivial hn
  obtain ⟨r', hr'⟩ := Option.isSome_iff_exists.1 hsome
  rw [hr', Option.getD_some]
  exact ⟨n, hr'⟩

/-- What holds of the first state and is kept by every step tells what the result is. -/
theorem Ends.post {step : σ → Step σ ρ} (inv : σ → Prop) (post : ρ → Prop)
    (hnext : ∀ s s', inv s → step s = .next s' → inv s')
    (hdone : ∀ s r, inv s → step s = .done r → post r) {s : σ} {r : ρ} (h : Ends step s r)
    (hs : inv s) : post r := by
  obtain ⟨n, hn⟩ := h
  exact Loop.run_post inv post hnext hdone hs hn

end ModuleGraph.Loop
