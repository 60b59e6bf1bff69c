import ModuleGraph.Graph.Validity
import ModuleGraph.Proofs.Digraph.SortAgreement
import ModuleGraph.Proofs.KeyedSet

/-!
# Which package cycles are refused

The check of package cycles judges one cycle: the one that is closed first by a walk from the
roots and the packages beside them.  If a package on it refuses cycles, the check fails and reports
the way to the cycle and the cycle; otherwise it passes, whatever other cycles there are.

## Key results

- `checkCycles_judges_first`: when the check fails, with what, and how that compares with the rule
  that no package on any cycle may refuse it
-/

namespace ModuleGraph

/-- Whether a package does not allow cycles through it. -/
def Catalog.refusesCycles (c : Catalog) (id : Identity) : Bool :=
  !(c.manifest? id).any (·.toleratesCycles)

namespace Discovery

/-- The roots and the packages beside them. -/
def cycleInputs (c : Catalog) (d : Discovery) : List Identity := c.roots ++ d.extra

/-- The graph of packages in which cycles are looked for. -/
def cycleGraph (c : Catalog) (d : Discovery) : Digraph Identity Identity :=
  d.packageGraph (cycleInputs c d)

/-- The cycle is the first that a walk from the inputs closes. -/
def ClosesFirst (c : Catalog) (d : Discovery) (w : Cycle Identity) : Prop :=
  (cycleGraph c d).ClosesFirst (cycleInputs c d) w

/-- A walk along dependencies from an input into a cycle and once around it. -/
structure IsWalk (c : Catalog) (d : Discovery) (w : Cycle Identity) : Prop where
  starts : ∀ id ∈ w.closedWalk.head?, id ∈ cycleInputs c d
  follows : w.closedWalk.IsChain fun p q => q ∈ d.edgesOf p
  distinct : (w.path ++ w.cycle).Nodup
  closed : w.cycle ≠ []

/-- Some package that refuses cycles is on a cycle to which an input leads. -/
def RefusedCycle (c : Catalog) (d : Discovery) : Prop :=
  ∃ a ∈ cycleInputs c d, ∃ id, (cycleGraph c d).Reaches a id ∧ (cycleGraph c d).OnCycle id ∧
    c.refusesCycles id = true

/-- The error that reports a cycle. -/
def cycleError (c : Catalog) (w : Cycle Identity) : GraphError :=
  .package (.packageCycle (w.path.map c.displayName) (w.cycle.map c.displayName))

/-- Packages are told apart by themselves. -/
theorem keyDetermined_cycleGraph (c : Catalog) (d : Discovery) :
    (cycleGraph c d).KeyDetermined :=
  Digraph.keyDetermined_of_injective fun _ _ h => h

/-- A package on which another one depends is among the nodes of the graph. -/
theorem mem_nodes_of_edge (d : Discovery) (inputs : List Identity) (p q : Identity)
    (h : q ∈ d.edgesOf p) : q ∈ (d.packageGraph inputs).nodes := by
  unfold edgesOf SortedMap.getD at h
  cases hget : SortedMap.get? d.edges p with
  | none => rw [hget] at h; exact nomatch h
  | some qs =>
    rw [hget] at h
    have hmem : (p, qs) ∈ d.edges.toList := SortedMap.get?_eq_some_iff.1 hget
    exact List.mem_append_right _ (List.mem_flatMap.2 ⟨(p, qs), hmem, h⟩)

/-- The nodes have everything that a walk from the inputs may meet. -/
theorem covers_cycleGraph (c : Catalog) (d : Discovery) :
    (cycleGraph c d).Covers (cycleInputs c d) where
  starts := fun _ ha => List.mem_append_left _ ha
  successors := fun a _ b hb => d.mem_nodes_of_edge _ a b hb

/-- The check passes where there is no cycle: the sort succeeds then. -/
theorem checkCycles_of_none {c : Catalog} {d : Discovery}
    (h : (cycleGraph c d).findCycle (cycleInputs c d) = none) : d.checkCycles c = .ok () := by
  obtain ⟨sorted, hsorted⟩ :=
    (Digraph.sort_isOk_iff (keyDetermined_cycleGraph c d) (covers_cycleGraph c d)).2 h
  unfold cycleGraph cycleInputs at hsorted
  unfold checkCycles
  dsimp only
  rw [hsorted]

/-- The check judges the cycle that is found: the sort fails then. -/
theorem checkCycles_of_some {c : Catalog} {d : Discovery} {w : Cycle Identity}
    (h : (cycleGraph c d).findCycle (cycleInputs c d) = some w) :
    d.checkCycles c =
      if w.cycle.any c.refusesCycles then .error (cycleError c w) else .ok () := by
  have hall : (w.cycle.all fun id => (c.manifest? id).any (·.toleratesCycles)) =
      !w.cycle.any c.refusesCycles := by
    simp [List.not_any_eq_all_not, Catalog.refusesCycles]
  cases hsort : (cycleGraph c d).sort (cycleInputs c d) with
  | ok sorted =>
    -- A sort that succeeds would mean that there is no cycle.
    have hnone :=
      (Digraph.sort_isOk_iff (keyDetermined_cycleGraph c d) (covers_cycleGraph c d)).1
        ⟨sorted, hsort⟩
    rw [h] at hnone
    exact nomatch hnone
  | error e =>
    unfold cycleGraph cycleInputs at h hsort
    unfold checkCycles
    dsimp only
    rw [hsort]
    dsimp only
    rw [h]
    dsimp only
    rw [hall]
    cases w.cycle.any c.refusesCycles <;> rfl

/-- The check fails for a cycle alone. -/
theorem exists_cycleError {c : Catalog} {d : Discovery} {e : GraphError}
    (h : d.checkCycles c = .error e) : ∃ w, e = cycleError c w := by
  cases hfind : (cycleGraph c d).findCycle (cycleInputs c d) with
  | none =>
    rw [checkCycles_of_none hfind] at h
    exact nomatch h
  | some w =>
    rw [checkCycles_of_some hfind] at h
    split at h
    · exact ⟨w, (Except.error.inj h).symm⟩
    · exact nomatch h

/-- The first cycle is a walk from an input into a cycle. -/
theorem ClosesFirst.isWalk {c : Catalog} {d : Discovery} {w : Cycle Identity}
    (h : ClosesFirst c d w) : IsWalk c d w := by
  obtain ⟨choices, hw, -⟩ := h
  obtain ⟨hnodup, hne⟩ := hw.nodup
  obtain ⟨b, hhead, hchain, hstart⟩ := hw.isChain
  -- Packages are their own keys, so the walk comes back to the very package.
  have hkey : (cycleGraph c d).key = id := rfl
  rw [hkey, Option.map_id_fun, id_eq, id_eq] at hhead
  rw [hkey, List.map_id] at hnodup
  have hclosed : w.closedWalk = w.path ++ w.cycle ++ [b] := by
    rw [Cycle.closedWalk, hhead, Option.toList_some]
  refine ⟨fun id hid => hstart id ?_, hclosed ▸ hchain, hnodup, hne⟩
  rw [hclosed, List.head?_append_of_ne_nil _ (by simp [hne])] at hid
  exact hid

/-- Every package on the first cycle is on a cycle to which an input leads. -/
theorem ClosesFirst.onCycle {c : Catalog} {d : Discovery} {w : Cycle Identity}
    (h : ClosesFirst c d w) (id : Identity) (hid : id ∈ w.cycle) :
    ∃ a ∈ cycleInputs c d, (cycleGraph c d).Reaches a id ∧ (cycleGraph c d).OnCycle id := by
  obtain ⟨choices, hw, -⟩ := h
  obtain ⟨a, ha, first, hfirst, hreach, -⟩ := hw.onCycle
  obtain ⟨b, hhead, hchain, -⟩ := hw.isChain
  rw [List.append_assoc] at hchain
  have hloop := hchain.right_of_append
  obtain ⟨tail, hcycle⟩ := List.head?_eq_some_iff.1 hfirst
  -- The first package of the cycle leads to all others along it.
  have hb : b = first := by
    rw [hcycle] at hhead
    exact (Option.some.inj hhead).symm
  have hid' : (cycleGraph c d).Reaches first id := by
    rw [hcycle] at hloop hid
    exact Digraph.reaches_of_isChain _ first _ hloop id (List.mem_append_left [b] hid)
  refine ⟨a, ha, hreach.trans hid', ?_⟩
  -- The rest of the cycle leads from the package back to the first one, and on to the package.
  obtain ⟨before, after, hsplit⟩ := List.append_of_mem hid
  rw [hsplit, List.append_assoc] at hloop
  have hrest := hloop.right_of_append
  obtain ⟨next, tail', hnext⟩ := List.exists_cons_of_ne_nil (l := after ++ [b]) (by simp)
  rw [List.cons_append, hnext] at hrest
  obtain ⟨hstep, hwalk⟩ := List.isChain_cons_cons.1 hrest
  have hback : (cycleGraph c d).Reaches next first := by
    refine Digraph.reaches_of_isChain _ next tail' hwalk first ?_
    rw [← hnext, hb]
    simp
  exact ⟨next, hstep, id, hback.trans hid', rfl⟩

/-- The check of package cycles judges the cycle that is closed first, and no other: it fails
exactly if a package on that cycle refuses it, and then reports the way from an input to the cycle
and the cycle.  So a failure always has a cycle that is refused, and a cycle that is refused is
let pass exactly if the first cycle is another one, which no package on it refuses. -/
theorem checkCycles_judges_first (c : Catalog) (d : Discovery) :
    (∀ e, d.checkCycles c = .error e ↔
      ∃ w, ClosesFirst c d w ∧ (∃ id ∈ w.cycle, c.refusesCycles id = true) ∧
        e = cycleError c w) ∧
    (∀ w, ClosesFirst c d w → IsWalk c d w) ∧
    ((∃ e, d.checkCycles c = .error e) → RefusedCycle c d) ∧
    (RefusedCycle c d → (d.checkCycles c = .ok () ↔
      ∃ w, ClosesFirst c d w ∧ ∀ id ∈ w.cycle, c.refusesCycles id = false)) := by
  have hkey := keyDetermined_cycleGraph c d
  have hcov := covers_cycleGraph c d
  have hsome := Digraph.findCycle_eq_some_iff hkey hcov
  have herror : ∀ e, d.checkCycles c = .error e ↔
      ∃ w, ClosesFirst c d w ∧ (∃ id ∈ w.cycle, c.refusesCycles id = true) ∧
        e = cycleError c w := by
    intro e
    constructor
    · intro h
      cases hfind : (cycleGraph c d).findCycle (cycleInputs c d) with
      | none =>
        rw [checkCycles_of_none hfind] at h
        exact nomatch h
      | some w =>
        rw [checkCycles_of_some hfind] at h
        split at h
        · next hany => exact ⟨w, (hsome w).1 hfind, by simpa using hany, by cases h; rfl⟩
        · exact nomatch h
    · rintro ⟨w, hfirst, hrefused, rfl⟩
      rw [checkCycles_of_some ((hsome w).2 hfirst)]
      exact if_pos (by simpa using hrefused)
  refine ⟨herror, fun w hw => hw.isWalk, ?_, ?_⟩
  · intro ⟨e, he⟩
    obtain ⟨w, hfirst, ⟨id, hid, hrefuses⟩, -⟩ := (herror e).1 he
    obtain ⟨a, ha, hreach, hon⟩ := hfirst.onCycle id hid
    exact ⟨a, ha, id, hreach, hon, hrefuses⟩
  · rintro ⟨a, ha, id, hreach, hon, -⟩
    -- There is a cycle, so there is one that is closed first.
    obtain ⟨w, hfirst⟩ := (Digraph.exists_closesFirst_iff hkey hcov).2 ⟨a, ha, id, hreach, hon⟩
    rw [checkCycles_of_some ((hsome w).2 hfirst)]
    constructor
    · intro h
      split at h
      · exact nomatch h
      · next hany => exact ⟨w, hfirst, by simpa using hany⟩
    · intro ⟨w', hfirst', hnone⟩
      rw [Digraph.ClosesFirst.unique hfirst hfirst']
      exact if_neg (by simpa using hnone)

end Discovery

end ModuleGraph
