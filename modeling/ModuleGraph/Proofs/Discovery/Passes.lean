import ModuleGraph.Proofs.Discovery.Conflicts

/-!
# The states of discovery

Discovery enters the roots, then the extra dependencies, then it visits packages and declares what
they require.  `Passes` has all states that it goes through on the way, also when it fails in the
end.  What every step keeps holds in each of them, and so where a declaration is refused.

## Key results

- `Passes.visitNext`, `Passes.comesTo_of_visitNext`: a visit goes from one of the states to another
  one, or comes to a refused declaration
- `Passes.traced`: what has been met is listed as it is met
- `Catalog.exists_refusal`: discovery fails where a declaration is refused
-/

namespace ModuleGraph

namespace Discovery

/-- The states that discovery goes through.  `todo` has the extra dependencies that are still to be
entered, and `visiting` is the package whose dependencies are being declared.  Which of them the
package requires is left open. -/
inductive Passes (c : Catalog) (mirrors : Mirrors) (extra : List Dependency)
    (filter : ProductFilter) : List Dependency → Option Identity → Discovery → Prop
  /-- The roots have been entered. -/
  | roots : Passes c mirrors extra filter extra none (c.roots.foldl (enterRoot c filter) empty)
  /-- The next extra dependency is entered. -/
  | extra {dep : Dependency} {todo : List Dependency} {d d' : Discovery}
      (h : Passes c mirrors extra filter (dep :: todo) none d)
      (hstep : enterExtra c mirrors d dep = .ok d') : Passes c mirrors extra filter todo none d'
  /-- The next package is taken from the queue. -/
  | visit {visiting : Option Identity} {p : Identity} {queue : List Identity} {d : Discovery}
      (h : Passes c mirrors extra filter [] visiting d) (hqueue : d.queue = p :: queue) :
      Passes c mirrors extra filter [] (some p) { d with queue }
  /-- A dependency of the package is declared. -/
  | declared {p : Identity} {dep : Dependency} {f : ProductFilter} {d d' : Discovery}
      (h : Passes c mirrors extra filter [] (some p) d)
      (hdep : c.HasDependency extra (some p) dep)
      (hstep : declare c mirrors (some p) d (dep, f) = .ok d') :
      Passes c mirrors extra filter [] (some p) d'

/-- A dependency is declared next: it is the first of the extra dependencies that are to be entered,
or one of the package that is visited. -/
def DeclaresNext (c : Catalog) (todo : List Dependency) (dep : Dependency) :
    Option Identity → Prop
  | none => ∃ rest, todo = dep :: rest
  | some p => todo = [] ∧ ∃ m, c.manifest? p = some m ∧ dep ∈ m.dependencies

/-- Discovery comes to a declaration that is refused with this error. -/
def ComesTo (c : Catalog) (mirrors : Mirrors) (extra : List Dependency) (filter : ProductFilter)
    (e : PackageError) : Prop :=
  ∃ todo parent d dep f, Passes c mirrors extra filter todo parent d ∧
    DeclaresNext c todo dep parent ∧ declare c mirrors parent d (dep, f) = .error e

variable {c : Catalog} {mirrors : Mirrors} {traits : EnabledTraits} {extra todo : List Dependency}
  {filter f : ProductFilter} {visiting parent : Option Identity} {dep : Dependency}
  {d d' : Discovery}

/-! ### The states of discovery -/

/-- The extra dependencies that are to be entered are the last ones. -/
theorem Passes.todo_suffix (h : Passes c mirrors extra filter todo visiting d) :
    todo <:+ extra := by
  induction h with
  | roots => exact List.suffix_refl extra
  | extra _ _ ih => exact (List.suffix_cons _ _).trans ih
  | visit _ _ ih => exact ih
  | declared _ _ _ ih => exact ih

/-- A dependency that is declared next is one of its package, or an extra dependency. -/
theorem Passes.hasDependency (h : Passes c mirrors extra filter todo visiting d)
    (hnext : DeclaresNext c todo dep parent) : c.HasDependency extra parent dep := by
  cases parent with
  | none =>
    obtain ⟨rest, rfl⟩ := hnext
    exact h.todo_suffix.subset List.mem_cons_self
  | some p => exact hnext.2

/-- Entering the extra dependencies comes to a refused declaration or to the end of the list. -/
theorem meets_enterExtras (h : Passes c mirrors extra filter todo none d) :
    Except.Meets (Passes c mirrors extra filter [] none) (ComesTo c mirrors extra filter)
      (todo.foldlM (enterExtra c mirrors) d) := by
  induction todo generalizing d with
  | nil => exact .of_ok h
  | cons dep todo ih =>
    rw [List.foldlM_cons]
    cases hstep : enterExtra c mirrors d dep with
    | ok d' => exact ih (h.extra hstep)
    | error e =>
      unfold enterExtra at hstep
      -- Only the declaration can fail.
      rcases Except.bind_eq_error.1 hstep with hrefused | ⟨_, -, hpure⟩
      · exact .of_error ⟨_, none, d, dep, .everything, h, ⟨todo, rfl⟩, hrefused⟩
      · exact nomatch hpure

/-- Declaring dependencies of a package comes to one that is refused or to the end of the list. -/
theorem meets_declares {p : Identity} {m : Manifest} (hm : c.manifest? p = some m) (names : Names)
    (h : Passes c mirrors extra filter [] (some p) d) :
    Except.Meets (Passes c mirrors extra filter [] (some p)) (ComesTo c mirrors extra filter)
      ((m.requiredDependencies mirrors.identify f names).foldlM
        (Discovery.declare c mirrors (some p)) d) := by
  refine Except.Meets.foldlM (fun entry hentry d hd => ?_) h
  obtain ⟨dep, f⟩ := entry
  -- What a manifest requires is declared in it.
  obtain ⟨i, hget, -⟩ := (m.mem_requiredDependencies ..).1 hentry
  have hdep : dep ∈ m.dependencies := List.mem_of_getElem? hget
  cases hstep : Discovery.declare c mirrors (some p) d (dep, f) with
  | ok d' => exact .of_ok (hd.declared ⟨m, hm, hdep⟩ hstep)
  | error e => exact .of_error ⟨[], some p, d, dep, f, hd, ⟨rfl, m, hm, hdep⟩, hstep⟩

/-- A visit that goes on leads to a state that discovery goes through. -/
theorem Passes.visitNext (h : Passes c mirrors extra filter [] visiting d)
    (hstep : Discovery.visitNext c mirrors traits d = .next d') :
    ∃ visiting, Passes c mirrors extra filter [] visiting d' := by
  obtain ⟨p, queue, hqueue, ⟨-, rfl⟩ | ⟨m, hm, hfold⟩⟩ := visitNext_next hstep
  · exact ⟨some p, h.visit hqueue⟩
  · exact ⟨some p, (meets_declares hm _ (h.visit hqueue)).ok d' hfold⟩

/-- A visit that fails has come to a refused declaration. -/
theorem Passes.comesTo_of_visitNext {e : PackageError}
    (h : Passes c mirrors extra filter [] visiting d)
    (hstep : Discovery.visitNext c mirrors traits d = .done (.error e)) :
    ComesTo c mirrors extra filter e := by
  obtain ⟨p, queue, m, hqueue, hm, hfold⟩ := visitNext_error hstep
  exact (meets_declares hm _ (h.visit hqueue)).error e hfold

/-- What has been met is listed and noted as it is met, and the package that is visited has been
met. -/
theorem Passes.traced (hroots : c.ListsRoots)
    (h : Passes c mirrors extra filter todo visiting d) :
    Traced c mirrors (c.startsOf mirrors extra) d ∧ ∀ p ∈ visiting, p ∈ d.order := by
  induction h with
  -- The roots are inputs.
  | roots =>
    have hinputs : ∀ id ∈ c.roots, id ∈ c.startsOf mirrors extra :=
      fun id hid => List.mem_append_left _ hid
    exact ⟨traced_enterRoots hroots hinputs filter, fun p hp => nomatch hp⟩
  -- And so is what the further dependencies name.
  | @extra dep todo d d' h hstep ih =>
    have hdep : dep ∈ extra := h.todo_suffix.subset List.mem_cons_self
    have hinput : mirrors.identify dep.origin ∈ c.startsOf mirrors extra :=
      List.mem_append_right _ (List.mem_map_of_mem hdep)
    exact ⟨ih.1.enterExtra hinput hstep, fun p hp => nomatch hp⟩
  -- What is taken from the queue has been met.
  | @visit _ p queue d _ hqueue ih =>
    refine ⟨{ ih.1 with queued := fun q hq => ih.1.queued q (by simp [hqueue, hq]) }, ?_⟩
    intro q hq
    -- It is declared by the visited package, which has been met.
    cases hq
    exact ih.1.queued p (by simp [hqueue])
  | @declared p dep f d d' _ hdep hstep ih =>
    have hdeclared := declare_ok hstep
    obtain ⟨m, hm, hmem⟩ := hdep
    refine ⟨hdeclared.traced ih.1 (fun q hq => ?_) (fun hnone => nomatch hnone), ?_⟩
    · cases hq
      exact ⟨ih.2 p rfl, m, hm, dep, hmem, rfl⟩
    · exact fun q hq => hdeclared.grows.order q (ih.2 q hq)

end Discovery

/-- Discovery fails where a declaration is refused. -/
theorem Catalog.exists_refusal {c : Catalog} {mirrors : Mirrors} {traits : EnabledTraits}
    {extra : List Dependency} {filter : ProductFilter} {e : PackageError}
    (h : c.discover mirrors traits extra filter = .error e) :
    Discovery.ComesTo c mirrors extra filter e := by
  have hroots : Discovery.Passes c mirrors extra filter extra none
      (c.roots.foldl (Discovery.enterRoot c filter) Discovery.empty) := .roots
  have hentered := Discovery.meets_enterExtras hroots
  unfold Catalog.discover at h
  rcases Except.bind_eq_error.1 h with h | ⟨d, hextras, h⟩
  · exact hentered.error e h
  · -- The visits start where all extra dependencies have been entered.
    have hstart : ∃ visiting, Discovery.Passes c mirrors extra filter [] visiting d :=
      ⟨none, hentered.ok d hextras⟩
    cases hrun : Loop.run (Discovery.visitNext c mirrors traits)
        (Discovery.visitBound c filter) d with
    | none =>
      rw [hrun] at h
      exact nomatch h
    | some r =>
      rw [hrun] at h
      have hr : r = .error e := h
      subst hr
      exact Loop.run_post
        (fun d => ∃ visiting, Discovery.Passes c mirrors extra filter [] visiting d)
        (fun r => ∀ e, r = .error e → Discovery.ComesTo c mirrors extra filter e)
        (fun _ _ ⟨_, hd⟩ hstep => hd.visitNext hstep)
        (fun _ _ ⟨_, hd⟩ hstep e he => hd.comesTo_of_visitNext (he ▸ hstep))
        hstart hrun e rfl

end ModuleGraph
