import ModuleGraph.Proofs.Outcome

/-!
# What is reported on the way

The reports of work in two parts that goes on are those of both parts in turn.  So a property that
the reports of every part have is one of all reports.

## Key results

- `Logged.journal_bind_of_ok`: the reports of work in two parts
- `Logged.Reports.bind`, `Logged.Reports.mapList`: what is known of all reports, step by step
- `Logged.journal_mapList_tell`: reports alone are made in the order of the list
-/

namespace ModuleGraph

/-- The diagnostics of two journals, one after the other. -/
theorem Journal.diagnostics_append (j j' : Journal) :
    Journal.diagnostics (j ++ j') = j.diagnostics ++ j'.diagnostics :=
  List.filterMap_append

/-- The diagnostics of a journal that has nothing else. -/
theorem Journal.diagnostics_map (l : List Diagnostic) :
    Journal.diagnostics (l.map .diagnostic) = l := by
  unfold diagnostics
  rw [List.filterMap_map]
  exact List.filterMap_some

/-- A diagnostic of a journal has been reported. -/
theorem Journal.mem_diagnostics {j : Journal} {d : Diagnostic} :
    d ∈ j.diagnostics ↔ Report.diagnostic d ∈ j := by
  unfold diagnostics
  rw [List.mem_filterMap]
  constructor
  · rintro ⟨r, hr, heq⟩
    cases r with
    | diagnostic d' => exact Option.some.inj heq ▸ hr
    | logLine text => exact nomatch heq
  · exact fun hd => ⟨.diagnostic d, hd, rfl⟩

namespace Logged

variable {ε ε' α β : Type} {p : Report → Prop}

@[simp] theorem journal_pure (a : α) : (pure a : Logged ε α).journal = [] := rfl

@[simp] theorem journal_ofExcept (r : Except ε α) : (ofExcept r).journal = [] := rfl

@[simp] theorem journal_tell (r : Report) : (tell r : Logged ε Unit).journal = [r] := rfl

@[simp] theorem journal_mapError (f : ε → ε') (x : Logged ε α) :
    (x.mapError f).journal = x.journal := rfl

/-- Where the first part succeeds, the second part reports after it. -/
theorem journal_bind_of_ok {x : Logged ε α} {f : α → Logged ε β} {a : α}
    (h : x.result = .ok a) : (x >>= f).journal = x.journal ++ (f a).journal := by
  show (x.bind f).journal = _
  rw [bind, h]

/-- Where the first part fails, nothing more is reported. -/
theorem journal_bind_of_error {x : Logged ε α} {f : α → Logged ε β} {e : ε}
    (h : x.result = .error e) : (x >>= f).journal = x.journal := by
  show (x.bind f).journal = _
  rw [bind, h]

/-- Work on a list that only reports makes the reports in the order of the list. -/
theorem journal_mapList_tell (report : α → Report) (l : List α) :
    (mapList (fun a => (tell (report a) : Logged ε Unit)) l).journal = l.map report := by
  induction l with
  | nil => rfl
  | cons a l ih =>
    -- Reports never fail, so those of the rest of the list follow.
    obtain ⟨u, hu⟩ := exists_mapList_tell (ε := ε) report l
    rw [mapList, journal_bind_of_ok rfl, journal_bind_of_ok hu, ih]
    simp

/-- All reports have a property. -/
def Reports (p : Report → Prop) (x : Logged ε α) : Prop := ∀ r ∈ x.journal, p r

/-- Nothing is reported. -/
theorem reports_of_nil {x : Logged ε α} (h : x.journal = []) : x.Reports p := by
  intro r hr
  rw [h] at hr
  exact nomatch hr

/-- A report with the property. -/
theorem reports_tell {r : Report} (h : p r) : (tell r : Logged ε Unit).Reports p := by
  intro r' hr'
  exact List.mem_singleton.1 hr' ▸ h

namespace Reports

/-- Work in two parts. -/
theorem bind {x : Logged ε α} {f : α → Logged ε β} (hx : x.Reports p)
    (hf : ∀ a, (f a).Reports p) : (x >>= f).Reports p := by
  intro r hr
  cases hresult : x.result with
  | error e =>
    rw [journal_bind_of_error hresult] at hr
    exact hx r hr
  | ok a =>
    rw [journal_bind_of_ok hresult] at hr
    rcases List.mem_append.1 hr with hr | hr
    · exact hx r hr
    · exact hf a r hr

/-- Work on the items of a list. -/
theorem mapList {f : α → Logged ε β} (hf : ∀ a, (f a).Reports p) (l : List α) :
    (Logged.mapList f l).Reports p := by
  induction l with
  | nil => exact reports_of_nil rfl
  | cons a l ih => exact (hf a).bind fun b => ih.bind fun bs => reports_of_nil rfl

end Reports

end Logged

end ModuleGraph
