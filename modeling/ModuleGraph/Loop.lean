/-! # Loops

A loop is a step function on an explicit state.  `Loop.run` makes at most a given number of steps
and answers `none` if they do not suffice.  `run_isSome` says when they do: some measure of the
state, smaller than their number, falls with every step.  `run_post` carries an invariant from the
first state to the result, and `run_congr` shows two loops to be the same where it holds. -/

namespace ModuleGraph

/-- What one step of a loop leads to. -/
inductive Step (σ ρ : Type) where
  | next (s : σ)
  | done (r : ρ)

namespace Loop

variable {σ ρ : Type}

/-- Makes at most the given number of steps. -/
def run (step : σ → Step σ ρ) : Nat → σ → Option ρ
  | 0, _ => none
  | n + 1, s =>
    match step s with
    | .next s' => run step n s'
    | .done r => some r

theorem run_next {step : σ → Step σ ρ} {s s' : σ} (h : step s = .next s') (n : Nat) :
    run step (n + 1) s = run step n s' := by
  rw [run, h]

theorem run_done {step : σ → Step σ ρ} {s : σ} {r : ρ} (h : step s = .done r) (n : Nat) :
    run step (n + 1) s = some r := by
  rw [run, h]

/-- More steps than needed change nothing. -/
theorem run_mono {step : σ → Step σ ρ} {n m : Nat} {s : σ} {r : ρ} (h : run step n s = some r)
    (hm : n ≤ m) : run step m s = some r := by
  induction n generalizing s m with
  | zero => simp [run] at h
  | succ n ih =>
    obtain ⟨m, rfl⟩ : ∃ k, m = k + 1 := ⟨m - 1, by omega⟩
    rw [run] at h ⊢
    split
    · next s' hs => rw [hs] at h; exact ih h (by omega)
    · next r' hs => rw [hs] at h; exact h

/-- What holds of the first state and is kept by every step gives what every last step gives. -/
theorem run_post {step : σ → Step σ ρ} (inv : σ → Prop) (post : ρ → Prop)
    (hnext : ∀ s s', inv s → step s = .next s' → inv s')
    (hdone : ∀ s r, inv s → step s = .done r → post r)
    {n : Nat} {s : σ} {r : ρ} (hs : inv s) (h : run step n s = some r) : post r := by
  induction n generalizing s with
  | zero => simp [run] at h
  | succ n ih =>
    rw [run] at h
    split at h
    · next s' hstep => exact ih (hnext s s' hs hstep) h
    · next r' hstep => exact Option.some.inj h ▸ hdone s r' hs hstep

/-- Steps that are the same from every state that can occur make the same loop. -/
theorem run_congr {step step' : σ → Step σ ρ} (inv : σ → Prop)
    (hsame : ∀ s, inv s → step s = step' s)
    (hnext : ∀ s s', inv s → step s = .next s' → inv s') {s : σ} (hs : inv s) (n : Nat) :
    run step n s = run step' n s := by
  induction n generalizing s with
  | zero => rfl
  | succ n ih =>
    rw [run, run, ← hsame s hs]
    split
    · next s' hstep => exact ih (hnext s s' hs hstep)
    · rfl

/-- A loop ends within `n` steps if a measure below `n` falls with every step. -/
theorem run_isSome {step : σ → Step σ ρ} (inv : σ → Prop) (measure : σ → Nat)
    (hnext : ∀ s s', inv s → step s = .next s' → inv s' ∧ measure s' < measure s)
    {n : Nat} {s : σ} (hs : inv s) (hn : measure s < n) : (run step n s).isSome := by
  induction n generalizing s with
  | zero => omega
  | succ n ih =>
    rw [run]
    split
    · next s' hstep =>
      obtain ⟨hs', hlt⟩ := hnext s s' hs hstep
      exact ih hs' (by omega)
    · rfl

end Loop

end ModuleGraph
