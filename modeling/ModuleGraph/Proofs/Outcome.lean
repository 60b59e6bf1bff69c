import ModuleGraph.Journal
import Mathlib.Data.List.Forall2

/-!
# Outcomes of work that can fail

What a success says about the parts that work was made of: steps, folds over lists, and logged
work, the reports left aside.

## Key results

- `Except.bind_eq_ok`: work in two parts succeeds if both do
- `Except.foldlM_inv`: what every step keeps holds in the end
- `Except.foldlM_forall`: what a step does for its item is done for all items in the end
- `Except.mapM_eq_ok`: work on a list succeeds item by item
- `Except.Meets.bind`, `Except.Meets.foldlM`: what is known of success and failure, step by step
- `Logged.mapList_eq_ok`: work on a list succeeds item by item
-/

namespace Except

variable {ε ε' α β σ : Type}

/-- Work in two parts succeeds if both do. -/
theorem bind_eq_ok {x : Except ε α} {f : α → Except ε β} {b : β} :
    x >>= f = .ok b ↔ ∃ a, x = .ok a ∧ f a = .ok b := by
  cases x with
  | error e => simp [bind, Except.bind]
  | ok a => simp [bind, Except.bind]

/-- A success is turned into another one by what it is made of. -/
theorem map_eq_ok {x : Except ε α} {f : α → β} {b : β} :
    x.map f = .ok b ↔ ∃ a, x = .ok a ∧ b = f a := by
  cases x <;> simp [Except.map, eq_comm]

/-- Turning a success into another one changes no error. -/
theorem map_eq_error {x : Except ε α} {f : α → β} {e : ε} : x.map f = .error e ↔ x = .error e := by
  cases x <;> simp [Except.map]

/-- Work in two parts fails if one of them does. -/
theorem bind_eq_error {x : Except ε α} {f : α → Except ε β} {e : ε} :
    x >>= f = .error e ↔ x = .error e ∨ ∃ a, x = .ok a ∧ f a = .error e := by
  cases x with
  | error e => simp [bind, Except.bind]
  | ok a => simp [bind, Except.bind]

/-- Naming an error otherwise changes no success. -/
theorem mapError_eq_ok {x : Except ε α} {f : ε → ε'} {a : α} :
    x.mapError f = .ok a ↔ x = .ok a := by
  cases x <;> simp [Except.mapError]

/-- An error that is named otherwise has been another error. -/
theorem mapError_eq_error {x : Except ε α} {f : ε → ε'} {e' : ε'} :
    x.mapError f = .error e' ↔ ∃ e, x = .error e ∧ e' = f e := by
  cases x <;> simp [Except.mapError, eq_comm]

/-- Work whose outcome has a property succeeds. -/
theorem exists_ok_of_any {x : Except ε α} {p : α → Bool} (h : x.toOption.any p = true) :
    ∃ a, x = .ok a ∧ p a = true := by
  cases x with
  | error e => exact nomatch h
  | ok a => exact ⟨a, rfl, h⟩

/-- A fold succeeds if its first step and the rest do. -/
theorem foldlM_cons_eq_ok {f : σ → α → Except ε σ} {a : α} {l : List α} {s s' : σ} :
    (a :: l).foldlM f s = .ok s' ↔ ∃ s₁, f s a = .ok s₁ ∧ l.foldlM f s₁ = .ok s' := by
  rw [List.foldlM_cons, bind_eq_ok]

/-- What every step keeps holds in the end. -/
theorem foldlM_inv {f : σ → α → Except ε σ} (inv : σ → Prop) {l : List α}
    (hstep : ∀ a ∈ l, ∀ s s', inv s → f s a = .ok s' → inv s') {s s' : σ} (hs : inv s)
    (h : l.foldlM f s = .ok s') : inv s' := by
  induction l generalizing s with
  | nil =>
    cases h
    exact hs
  | cons a l ih =>
    obtain ⟨s₁, hfirst, hrest⟩ := foldlM_cons_eq_ok.1 h
    exact ih (fun a ha => hstep a (by simp [ha])) (hstep a (by simp) s s₁ hs hfirst) hrest

/-- If every step does something for its item, and no step undoes what has been done, then it has
been done for all items in the end. -/
theorem foldlM_forall {f : σ → α → Except ε σ} (grows : σ → σ → Prop) (done : α → σ → Prop)
    (hrefl : ∀ s, grows s s) (htrans : ∀ s s' s'', grows s s' → grows s' s'' → grows s s'')
    (hkept : ∀ a s s', done a s → grows s s' → done a s')
    {l : List α} (hstep : ∀ a ∈ l, ∀ s s', f s a = .ok s' → grows s s' ∧ done a s') {s s' : σ}
    (h : l.foldlM f s = .ok s') : grows s s' ∧ ∀ a ∈ l, done a s' := by
  induction l generalizing s with
  | nil =>
    cases h
    exact ⟨hrefl _, fun _ ha => nomatch ha⟩
  | cons a l ih =>
    obtain ⟨s₁, hfirst, hrest⟩ := foldlM_cons_eq_ok.1 h
    obtain ⟨hgrows, hdone⟩ := hstep a (by simp) s s₁ hfirst
    obtain ⟨hgrows', hall⟩ := ih (fun a ha => hstep a (by simp [ha])) hrest
    refine ⟨htrans s s₁ s' hgrows hgrows', fun b hb => ?_⟩
    rcases List.mem_cons.1 hb with rfl | hb
    · -- Done in the first step, and not undone since.
      exact hkept b s₁ s' hdone hgrows'
    · exact hall b hb

/-- Folds whose steps are the same on every item are the same. -/
theorem foldlM_congr {f g : σ → α → Except ε σ} {l : List α} (h : ∀ a ∈ l, ∀ s, f s a = g s a)
    (s : σ) : l.foldlM f s = l.foldlM g s := by
  induction l generalizing s with
  | nil => rfl
  | cons a l ih =>
    rw [List.foldlM_cons, List.foldlM_cons, h a (by simp) s]
    exact congrArg _ (funext fun s' => ih (fun a ha => h a (by simp [ha])) s')

/-- Work on a list succeeds item by item. -/
theorem mapM_eq_ok {f : α → Except ε β} {l : List α} {bs : List β} :
    l.mapM f = .ok bs ↔ List.Forall₂ (fun a b => f a = .ok b) l bs := by
  induction l generalizing bs with
  | nil => simp [pure, Except.pure, eq_comm]
  | cons a l ih =>
    rw [List.mapM_cons, bind_eq_ok, List.forall₂_cons_left_iff]
    constructor
    · rintro ⟨b, hb, hrest⟩
      obtain ⟨bs', hbs, hpure⟩ := bind_eq_ok.1 hrest
      exact ⟨b, bs', hb, ih.1 hbs, (Except.ok.inj hpure).symm⟩
    · rintro ⟨b, bs', hb, hbs, rfl⟩
      exact ⟨b, hb, bind_eq_ok.2 ⟨bs', ih.2 hbs, rfl⟩⟩

/-- Something is known of either outcome: a success has one property, an error has another. -/
structure Meets (good : α → Prop) (bad : ε → Prop) (x : Except ε α) : Prop where
  ok : ∀ a, x = .ok a → good a
  error : ∀ e, x = .error e → bad e

namespace Meets

variable {good : α → Prop} {good' : β → Prop} {bad : ε → Prop}

/-- A success with the property. -/
theorem of_ok {a : α} (h : good a) : Meets good bad (.ok a) where
  ok := by
    intro b heq
    cases heq
    exact h
  error := fun _ heq => nomatch heq

/-- An error with the property. -/
theorem of_error {e : ε} (h : bad e) : Meets good bad (.error e) where
  ok := fun _ heq => nomatch heq
  error := by
    intro e' heq
    cases heq
    exact h

/-- Work in two parts, the second of which may rely on what is known of the first. -/
theorem bind {x : Except ε α} {f : α → Except ε β} (hx : Meets good bad x)
    (hf : ∀ a, good a → Meets good' bad (f a)) : Meets good' bad (x >>= f) := by
  cases x with
  | error e => exact .of_error (hx.error e rfl)
  | ok a => exact hf a (hx.ok a rfl)

/-- A success that is turned into another one. -/
theorem map {x : Except ε α} {f : α → β} (hx : Meets good bad x)
    (hf : ∀ a, good a → good' (f a)) : Meets good' bad (x.map f) := by
  cases x with
  | error e => exact .of_error (hx.error e rfl)
  | ok a => exact .of_ok (hf a (hx.ok a rfl))

/-- A fold whose steps keep a property. -/
theorem foldlM {inv : σ → Prop} {f : σ → α → Except ε σ} {l : List α}
    (hstep : ∀ a ∈ l, ∀ s, inv s → Meets inv bad (f s a)) {s : σ} (hs : inv s) :
    Meets inv bad (l.foldlM f s) := by
  induction l generalizing s with
  | nil => exact .of_ok hs
  | cons a l ih =>
    rw [List.foldlM_cons]
    exact (hstep a (by simp) s hs).bind fun s' hs' => ih (fun b hb => hstep b (by simp [hb])) hs'

/-- Work on the items of a list, which fails for one of them. -/
theorem mapM {f : α → Except ε β} {l : List α} (h : ∀ a ∈ l, Meets (fun _ => True) bad (f a)) :
    Meets (fun _ => True) bad (l.mapM f) := by
  induction l with
  | nil => exact .of_ok trivial
  | cons a l ih =>
    rw [List.mapM_cons]
    refine (h a (by simp)).bind fun b _ => ?_
    exact (ih fun a' ha' => h a' (by simp [ha'])).bind fun bs _ => .of_ok trivial

end Meets

end Except

namespace ModuleGraph.Logged

variable {ε ε' α β : Type}

/-- Logged work in two parts succeeds if both do. -/
theorem bind_eq_ok {x : Logged ε α} {f : α → Logged ε β} {b : β} :
    (x >>= f).result = .ok b ↔ ∃ a, x.result = .ok a ∧ (f a).result = .ok b := by
  rw [result_bind, Except.bind_eq_ok]

/-- Naming an error otherwise changes no success. -/
theorem mapError_eq_ok {x : Logged ε α} {f : ε → ε'} {a : α} :
    (x.mapError f).result = .ok a ↔ x.result = .ok a :=
  Except.mapError_eq_ok

/-- Work on a list succeeds if it does on every item. -/
theorem mapList_eq_ok {f : α → Logged ε β} {l : List α} {bs : List β} :
    (mapList f l).result = .ok bs ↔ List.Forall₂ (fun a b => (f a).result = .ok b) l bs := by
  induction l generalizing bs with
  | nil => simp [mapList, pure, eq_comm]
  | cons a l ih =>
    rw [mapList, bind_eq_ok, List.forall₂_cons_left_iff]
    simp only [bind_eq_ok, ih, pure, Except.ok.injEq]
    constructor
    · rintro ⟨b, hb, rest, hrest, rfl⟩
      exact ⟨b, rest, hb, hrest, rfl⟩
    · rintro ⟨b, rest, hb, hrest, rfl⟩
      exact ⟨b, hb, rest, hrest, rfl⟩

/-- Reports have no part in the result of work on a list. -/
theorem result_mapList (f : α → Logged ε β) (l : List α) :
    (mapList f l).result = l.mapM fun a => (f a).result := by
  induction l with
  | nil => rfl
  | cons a l ih =>
    rw [mapList, List.mapM_cons]
    simp only [result_bind, result_pure, ih]

/-- Reports alone do not fail. -/
theorem exists_mapList_tell (report : α → Report) (l : List α) :
    ∃ u, (mapList (fun a => (tell (report a) : Logged ε Unit)) l).result = .ok u := by
  induction l with
  | nil => exact ⟨[], rfl⟩
  | cons a l ih =>
    obtain ⟨u, hu⟩ := ih
    exact ⟨() :: u, bind_eq_ok.2 ⟨(), rfl, bind_eq_ok.2 ⟨u, hu, rfl⟩⟩⟩

end ModuleGraph.Logged
