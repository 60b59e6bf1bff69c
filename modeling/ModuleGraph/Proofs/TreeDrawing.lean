import ModuleGraph.Command.Tree
import ModuleGraph.Proofs.PackageView
import ModuleGraph.Proofs.TestListing

/-!
# What the tree of packages shows

The tree is drawn by a recursion that follows every package once, when it is met for the first time.
`Draws` is that recursion with nothing that bounds it.  A package that has been drawn is marked the
next time and not followed again, so the recursion ends on every graph.

The depth limit has part in what is shown below a package only when it is met for the first time.  A
package that is met for the first time at the limit is not followed there, nor is it later, nearer
to the inputs: what can only be reached through it has no line, although it may be within the limit.

## Key results

- `Command.exists_draws`: the bounded recursion is not cut short
- `Command.Draws.seen_eq`, `Command.Draws.parent`, `Command.Draws.covers`, `Command.Draws.follows`:
  which packages have a line
- `Command.tree_shows`: what the command writes
-/

namespace ModuleGraph
namespace Command

/-! ### The recursion -/

/-- A package of the tree, at its depth, and whether it has been drawn before. -/
structure Entry where
  depth : Nat
  id : Identity
  again : Bool
  deriving DecidableEq

/-- The packages that are followed, in order. -/
def followed (entries : List Entry) : List Identity :=
  (entries.filter fun e => !e.again).map (·.id)

/-- Whether something may be drawn at a depth. -/
def Within (limit : Option Nat) (depth : Nat) : Prop := ∀ d, limit = some d → depth ≤ d

/-- Draws packages at a depth, from left to right, each with what it depends on below.  The packages
that have been drawn before are given, and those that have been drawn then come last. -/
inductive Draws (dependencies : Identity → List Identity) (limit : Option Nat) :
    Nat → List Identity → List Identity → List Entry → List Identity → Prop
  | done (depth : Nat) (seen : List Identity) : Draws dependencies limit depth [] seen [] seen
  /-- Nothing is drawn below the limit. -/
  | cut {depth : Nat} {id : Identity} {ids seen seen' : List Identity} {entries : List Entry}
      (hdepth : ¬ Within limit depth)
      (hrest : Draws dependencies limit depth ids seen entries seen') :
      Draws dependencies limit depth (id :: ids) seen entries seen'
  /-- A package that has been drawn is marked. -/
  | again {depth : Nat} {id : Identity} {ids seen seen' : List Identity} {entries : List Entry}
      (hdepth : Within limit depth) (hseen : id ∈ seen)
      (hrest : Draws dependencies limit depth ids seen entries seen') :
      Draws dependencies limit depth (id :: ids) seen (⟨depth, id, true⟩ :: entries) seen'
  /-- A package that is new is followed. -/
  | follow {depth : Nat} {id : Identity} {ids seen seen' seen'' : List Identity}
      {below entries : List Entry} (hdepth : Within limit depth) (hnew : id ∉ seen)
      (hbelow : Draws dependencies limit (depth + 1) (dependencies id) (id :: seen) below seen')
      (hrest : Draws dependencies limit depth ids seen' entries seen'') :
      Draws dependencies limit depth (id :: ids) seen (⟨depth, id, false⟩ :: (below ++ entries))
        seen''

section
variable {dependencies : Identity → List Identity} {limit : Option Nat} {depth : Nat}
  {ids seen seen' : List Identity} {entries : List Entry}

/-- The recursion draws one thing. -/
theorem Draws.unique (h : Draws dependencies limit depth ids seen entries seen')
    {entries' : List Entry} {seen'' : List Identity}
    (h' : Draws dependencies limit depth ids seen entries' seen'') :
    entries = entries' ∧ seen' = seen'' := by
  induction h generalizing entries' seen'' with
  | done =>
    cases h'
    exact ⟨rfl, rfl⟩
  | cut hdepth _ ih =>
    cases h' with
    | cut _ hrest' => exact ih hrest'
    | again hdepth' => exact absurd hdepth' hdepth
    | follow hdepth' => exact absurd hdepth' hdepth
  | again hdepth hseen _ ih =>
    cases h' with
    | cut hdepth' => exact absurd hdepth hdepth'
    | again _ _ hrest' =>
      obtain ⟨rfl, rfl⟩ := ih hrest'
      exact ⟨rfl, rfl⟩
    | follow _ hnew' => exact absurd hseen hnew'
  | follow hdepth hnew _ _ ihbelow ihrest =>
    -- What is drawn below comes first: the rest starts from what that has drawn.
    cases h' with
    | cut hdepth' => exact absurd hdepth hdepth'
    | again _ hseen' => exact absurd hseen' hnew
    | follow _ _ hbelow' hrest' =>
      obtain ⟨rfl, rfl⟩ := ihbelow hbelow'
      obtain ⟨rfl, rfl⟩ := ihrest hrest'
      exact ⟨rfl, rfl⟩

/-- What has been drawn is what is followed, on top of what had been drawn before. -/
theorem Draws.seen_eq (h : Draws dependencies limit depth ids seen entries seen') :
    seen' = (followed entries).reverse ++ seen := by
  induction h with
  | done => rfl
  | cut _ _ ih => exact ih
  | again _ _ _ ih => exact ih
  | follow _ _ _ _ ihbelow ihrest =>
    rw [ihrest, ihbelow]
    simp [followed]

/-- No package is followed that has been drawn. -/
theorem Draws.nodup (h : Draws dependencies limit depth ids seen entries seen')
    (hseen : seen.Nodup) : seen'.Nodup := by
  induction h with
  | done => exact hseen
  | cut _ _ ih => exact ih hseen
  | again _ _ _ ih => exact ih hseen
  | follow _ hnew _ _ ihbelow ihrest => exact ihrest (ihbelow (List.nodup_cons.2 ⟨hnew, hseen⟩))

/-- Whatever has been drawn stays so. -/
theorem Draws.seen_subset (h : Draws dependencies limit depth ids seen entries seen') :
    seen ⊆ seen' := by
  rw [h.seen_eq]
  exact List.subset_append_right _ _

/-- Every package with a line has been drawn in the end. -/
theorem Draws.mem_seen (h : Draws dependencies limit depth ids seen entries seen') :
    ∀ e ∈ entries, e.id ∈ seen' := by
  induction h with
  | done => exact fun e he => nomatch he
  | cut _ _ ih => exact ih
  | again _ hseen hrest ih =>
    rw [List.forall_mem_cons]
    exact ⟨hrest.seen_subset hseen, ih⟩
  | follow _ _ hbelow hrest ihbelow ihrest =>
    rw [List.forall_mem_cons, List.forall_mem_append]
    -- What has been drawn stays so in the rest.
    have hmem := hbelow.seen_subset (List.mem_cons_self ..)
    exact ⟨hrest.seen_subset hmem, fun e he => hrest.seen_subset (ihbelow e he), ihrest⟩

/-- An entry is one of the packages to draw, or a package that is followed one level above depends
on it. -/
theorem Draws.parent (h : Draws dependencies limit depth ids seen entries seen') :
    ∀ e ∈ entries, Within limit e.depth ∧
      (e.depth = depth ∧ e.id ∈ ids ∨
        ∃ e' ∈ entries, e'.again = false ∧ e.depth = e'.depth + 1 ∧ e.id ∈ dependencies e'.id) := by
  induction h with
  | done => exact fun e he => nomatch he
  | cut _ _ ih =>
    intro e he
    obtain ⟨hwithin, hcase⟩ := ih e he
    exact ⟨hwithin, hcase.imp_left fun h => ⟨h.1, List.mem_cons_of_mem _ h.2⟩⟩
  | again hdepth _ _ ih =>
    rw [List.forall_mem_cons]
    refine ⟨⟨hdepth, .inl ⟨rfl, List.mem_cons_self ..⟩⟩, fun e he => ?_⟩
    obtain ⟨hwithin, ⟨hdepth', hmem⟩ | ⟨e', he', hparent⟩⟩ := ih e he
    · exact ⟨hwithin, .inl ⟨hdepth', List.mem_cons_of_mem _ hmem⟩⟩
    · exact ⟨hwithin, .inr ⟨e', List.mem_cons_of_mem _ he', hparent⟩⟩
  | @follow depth id ids seen seen' seen'' below entries hdepth _ _ _ ihbelow ihrest =>
    rw [List.forall_mem_cons, List.forall_mem_append]
    refine ⟨⟨hdepth, .inl ⟨rfl, List.mem_cons_self ..⟩⟩, fun e he => ?_, fun e he => ?_⟩
    · -- What the followed package depends on has it as its parent.
      obtain ⟨hwithin, ⟨hdepth', hmem⟩ | ⟨e', he', hparent⟩⟩ := ihbelow e he
      · exact ⟨hwithin, .inr ⟨⟨depth, id, false⟩, List.mem_cons_self .., rfl, hdepth', hmem⟩⟩
      · exact ⟨hwithin, .inr ⟨e', List.mem_cons_of_mem _ (List.mem_append_left _ he'), hparent⟩⟩
    · obtain ⟨hwithin, ⟨hdepth', hmem⟩ | ⟨e', he', hparent⟩⟩ := ihrest e he
      · exact ⟨hwithin, .inl ⟨hdepth', List.mem_cons_of_mem _ hmem⟩⟩
      · exact ⟨hwithin, .inr ⟨e', List.mem_cons_of_mem _ (List.mem_append_right _ he'), hparent⟩⟩

/-- Above the limit, every package to draw has a line. -/
theorem Draws.covers (h : Draws dependencies limit depth ids seen entries seen')
    (hdepth : Within limit depth) : ∀ id ∈ ids, ∃ e ∈ entries, e.id = id := by
  induction h with
  | done => exact fun id hid => nomatch hid
  | cut hcut => exact absurd hdepth hcut
  | again _ _ _ ih =>
    rw [List.forall_mem_cons]
    refine ⟨⟨_, List.mem_cons_self .., rfl⟩, fun id hid => ?_⟩
    obtain ⟨e, he, heq⟩ := ih hdepth id hid
    exact ⟨e, List.mem_cons_of_mem _ he, heq⟩
  | follow _ _ _ _ _ ihrest =>
    rw [List.forall_mem_cons]
    refine ⟨⟨_, List.mem_cons_self .., rfl⟩, fun id hid => ?_⟩
    obtain ⟨e, he, heq⟩ := ihrest hdepth id hid
    exact ⟨e, List.mem_cons_of_mem _ (List.mem_append_right _ he), heq⟩

/-- What a package depends on that is followed above the limit has a line, too. -/
theorem Draws.follows (h : Draws dependencies limit depth ids seen entries seen') :
    ∀ e ∈ entries, e.again = false → Within limit (e.depth + 1) →
      ∀ id ∈ dependencies e.id, ∃ e' ∈ entries, e'.id = id := by
  induction h with
  | done => exact fun e he => nomatch he
  | cut _ _ ih => exact ih
  | again _ _ _ ih =>
    rw [List.forall_mem_cons]
    refine ⟨fun hagain => (nomatch hagain), fun e he hnew hdepth id hid => ?_⟩
    obtain ⟨e', he', heq⟩ := ih e he hnew hdepth id hid
    exact ⟨e', List.mem_cons_of_mem _ he', heq⟩
  | follow _ _ hbelow _ ihbelow ihrest =>
    rw [List.forall_mem_cons, List.forall_mem_append]
    refine ⟨fun _ hdepth id hid => ?_, fun e he hnew hdepth id hid => ?_,
      fun e he hnew hdepth id hid => ?_⟩
    · -- The package itself: what it depends on is what is drawn below it.
      obtain ⟨e', he', heq⟩ := hbelow.covers hdepth id hid
      exact ⟨e', List.mem_cons_of_mem _ (List.mem_append_left _ he'), heq⟩
    · obtain ⟨e', he', heq⟩ := ihbelow e he hnew hdepth id hid
      exact ⟨e', List.mem_cons_of_mem _ (List.mem_append_left _ he'), heq⟩
    · obtain ⟨e', he', heq⟩ := ihrest e he hnew hdepth id hid
      exact ⟨e', List.mem_cons_of_mem _ (List.mem_append_right _ he'), heq⟩

/-! ### The bounded recursion -/

/-- The packages of a graph leave room for a recursion: those that have been drawn are among them,
each once, and all others may be followed one below the other. -/
structure Room (packages : List Identity) (fuel : Nat) (seen : List Identity) : Prop where
  nodup : seen.Nodup
  known : seen ⊆ packages
  room : packages.length < fuel + seen.length

variable {packages : List Identity} {fuel : Nat}

/-- There is room for one package at least. -/
theorem Room.fuel_pos (h : Room packages fuel seen) : 0 < fuel := by
  have hlength := (List.subperm_of_subset h.nodup h.known).length_le
  have hroom := h.room
  omega

/-- Following a package that is new takes away room. -/
theorem Room.follow (h : Room packages (fuel + 1) seen) {id : Identity} (hid : id ∈ packages)
    (hnew : id ∉ seen) : Room packages fuel (id :: seen) := by
  refine ⟨List.nodup_cons.2 ⟨hnew, h.nodup⟩, List.cons_subset.2 ⟨hid, h.known⟩, ?_⟩
  have hroom := h.room
  rw [List.length_cons]
  omega

/-- Drawing takes away no room. -/
theorem Room.draws (h : Room packages (fuel + 1) seen) {id : Identity} (hnew : id ∉ seen)
    (hdraws : Draws dependencies limit depth ids (id :: seen) entries seen')
    (hknown : seen' ⊆ packages) : Room packages (fuel + 1) seen' := by
  refine ⟨hdraws.nodup (List.nodup_cons.2 ⟨hnew, h.nodup⟩), hknown, ?_⟩
  have hroom := h.room
  rw [hdraws.seen_eq, List.length_append, List.length_cons]
  omega

end

/-- The lines of an entry: that of the package and, if they are shown, those of its modules. -/
def Entry.lines (g : Graph) (showModules : Bool) (e : Entry) : List String :=
  let line := branch e.depth ++ packageLabel g e.id
  if e.again then [line ++ " (*)"]
  else line :: if showModules then moduleLines g e.depth e.id else []

/-- What the bounded recursion draws is what the recursion draws that nothing bounds. -/
theorem exists_draws {g : Graph} {view : PackageView} {style : TreeStyle}
    {packages : List Identity} (hclosed : ∀ id, view.dependencies id ⊆ packages) (fuel : Nat)
    {depth : Nat} {ids : List Identity} {d : Drawing} (hids : ids ⊆ packages)
    (hroom : Room packages fuel d.seen) :
    ∃ entries, Draws view.dependencies style.maxDepth depth ids d.seen entries
        (drawPackages g view style fuel depth d ids).seen ∧
      (drawPackages g view style fuel depth d ids).seen ⊆ packages ∧
      (drawPackages g view style fuel depth d ids).lines =
        d.lines ++ entries.flatMap (·.lines g style.showModules) := by
  -- On the levels first, then on the packages of a level.
  induction fuel generalizing depth ids d with
  | zero => exact absurd hroom.fuel_pos (lt_irrefl 0)
  | succ fuel ih =>
    have hwithin : (style.maxDepth.any (· < depth)) = true ↔ ¬ Within style.maxDepth depth := by
      cases style.maxDepth <;> simp [Within]
    induction ids generalizing d with
    | nil => exact ⟨[], .done depth d.seen, hroom.known, by simp [drawPackages]⟩
    | cons id ids ihids =>
      rw [List.cons_subset] at hids
      rw [drawPackages, List.foldl_cons, ← drawPackages]
      split
      · next hcut =>
        obtain ⟨entries, hdraws, hknown, hlines⟩ := ihids hids.2 hroom
        exact ⟨entries, .cut (hwithin.1 hcut) hdraws, hknown, hlines⟩
      · next hcut =>
        have hdepth : Within style.maxDepth depth := by
          rw [hwithin, not_not] at hcut
          exact hcut
        dsimp only
        split
        · next hseen =>
          obtain ⟨entries, hdraws, hknown, hlines⟩ :=
            @ihids { d with lines := d.lines ++ [branch depth ++ packageLabel g id ++ " (*)"] }
              hids.2 hroom
          refine ⟨⟨depth, id, true⟩ :: entries,
            .again hdepth (List.contains_iff_mem.1 hseen) hdraws, hknown, ?_⟩
          rw [hlines, List.flatMap_cons, ← List.append_assoc]
          rfl
        · next hnew =>
          rw [List.contains_iff_mem] at hnew
          -- The recursion goes below the package first; the rest is drawn after what that has
          -- drawn.
          obtain ⟨below, hbelow, hbelowKnown, hbelowLines⟩ :=
            @ih (depth + 1) (view.dependencies id)
              ⟨d.lines ++ [branch depth ++ packageLabel g id] ++
                (if style.showModules then moduleLines g depth id else []), id :: d.seen⟩
              (hclosed id) (hroom.follow hids.1 hnew)
          obtain ⟨entries, hrest, hknown, hlines⟩ :=
            ihids hids.2 (hroom.draws hnew hbelow hbelowKnown)
          refine ⟨⟨depth, id, false⟩ :: (below ++ entries), .follow hdepth hnew hbelow hrest,
            hknown, ?_⟩
          rw [hlines, hbelowLines, List.flatMap_cons, List.flatMap_append]
          simp [Entry.lines]

end Command

/-! ### Chains of dependencies -/

/-- So many dependencies lead from an input to a package, and what they lead through before has a
property. -/
inductive Graph.ChainTo (g : Graph) (through : Identity → Prop) : Nat → Identity → Prop
  | input {id : Identity} (hid : id ∈ g.inputs) : ChainTo g through 0 id
  | next {n : Nat} {id id' : Identity} (hchain : ChainTo g through n id) (hid : through id)
      (hdepends : g.DependsOn id id') : ChainTo g through (n + 1) id'

namespace Command

/-- A package is followed at the limit: it is met there for the first time, and what it depends on
is left out. -/
def CutOff (limit : Option Nat) (entries : List Entry) (id : Identity) : Prop :=
  ∃ depth, limit = some depth ∧ ⟨depth, id, false⟩ ∈ entries

section
variable {g : Graph} {dependencies : Identity → List Identity} {limit : Option Nat}
  {entries : List Entry} {seen : List Identity}

/-- A package is followed where it has an entry without a mark. -/
theorem mem_followed {id : Identity} :
    id ∈ followed entries ↔ ∃ e ∈ entries, e.again = false ∧ e.id = id := by
  simp only [followed, List.mem_map, List.mem_filter, Bool.not_eq_true', and_assoc]

/-- Every package with a line is followed, once. -/
theorem Draws.followed_spec (h : Draws dependencies limit 0 g.inputs [] entries seen) :
    (followed entries).Nodup ∧
      ∀ e ∈ entries, ∃ e' ∈ entries, e'.again = false ∧ e'.id = e.id := by
  have hseen : seen = (followed entries).reverse := by
    rw [h.seen_eq, List.append_nil]
  refine ⟨?_, fun e he => ?_⟩
  · rw [← List.nodup_reverse, ← hseen]
    exact h.nodup List.nodup_nil
  · rw [← mem_followed, ← List.mem_reverse, ← hseen]
    exact h.mem_seen e he

/-- Two entries without a mark are of different packages. -/
theorem eq_of_followed (hnodup : (followed entries).Nodup) {e e' : Entry} (he : e ∈ entries)
    (he' : e' ∈ entries) (hagain : e.again = false) (hagain' : e'.again = false)
    (hid : e.id = e'.id) : e = e' :=
  List.inj_on_of_nodup_map hnodup (List.mem_filter.2 ⟨he, by rw [hagain]; rfl⟩)
    (List.mem_filter.2 ⟨he', by rw [hagain']; rfl⟩) hid

/-- An entry stands where a chain of dependencies leads to, as deep as the chain is long. -/
theorem Draws.chainTo (h : Draws dependencies limit 0 g.inputs [] entries seen)
    (hdependencies : ∀ id id', id' ∈ dependencies id ↔ g.DependsOn id id') {n : Nat} {e : Entry}
    (he : e ∈ entries) (hn : e.depth = n) :
    g.ChainTo (fun id => ¬ CutOff limit entries id) n e.id := by
  induction n generalizing e with
  | zero =>
    rcases (h.parent e he).2 with ⟨-, hmem⟩ | ⟨e', -, -, hdepth, -⟩
    · exact .input hmem
    · omega
  | succ n ih =>
    obtain ⟨hwithin, ⟨hdepth, -⟩ | ⟨e', he', hnew, hdepth, hmem⟩⟩ := h.parent e he
    · omega
    · refine .next (ih he' (by omega)) ?_ ((hdependencies _ _).1 hmem)
      -- The parent is followed above the limit, and nowhere else.
      rintro ⟨depth, hlimit, hcut⟩
      have heq := eq_of_followed h.followed_spec.1 he' hcut hnew rfl rfl
      have hle := hwithin depth hlimit
      rw [hdepth, heq] at hle
      exact absurd hle (Nat.not_succ_le_self depth)

/-- Where a chain leads to on which nothing before is cut off, there is an entry. -/
theorem Draws.exists_entry (h : Draws dependencies limit 0 g.inputs [] entries seen)
    (hdependencies : ∀ id id', id' ∈ dependencies id ↔ g.DependsOn id id') {n : Nat} {id : Identity}
    (hchain : g.ChainTo (fun id => ¬ CutOff limit entries id) n id) :
    ∃ e ∈ entries, e.id = id := by
  induction hchain with
  | input hid => exact h.covers (fun d _ => Nat.zero_le d) _ hid
  | next _ hid hdepends ih =>
    obtain ⟨e, he, rfl⟩ := ih
    obtain ⟨⟨depth, id, again⟩, he', rfl, hsame⟩ := h.followed_spec.2 e he
    -- It is followed there or elsewhere, but above the limit, since it is not cut off.
    have hwithin : Within limit (depth + 1) := by
      intro d hlimit
      have hle := (h.parent _ he').1 d hlimit
      have hne : depth ≠ d := by
        rintro rfl
        exact hid ⟨depth, hlimit, hsame ▸ he'⟩
      exact Nat.lt_of_le_of_ne hle hne
    refine h.follows _ he' rfl hwithin _ ((hdependencies _ _).2 ?_)
    rw [hsame]
    exact hdepends

end

variable {w : Workspace} {f : Flags} {file : GraphFile} {g : Graph}

/-- **What the tree shows.**  For every loaded graph and every limit, the command ends and writes
the lines of a list of entries, which the recursion gives that nothing bounds.  No package is
followed twice.  Every entry is within the limit, as deep as a chain of dependencies from an input
is long; and a package has an entry exactly if there is a chain to it on which nothing is cut off
before. -/
theorem tree_shows (hfile : w.graph = .holds file) (hroot : file.hasRoot = true)
    (hload : (file.source w.files (options w f)).load.result = .ok g) (style : TreeStyle) :
    ∃ entries seen,
      Draws g.packageView.dependencies style.maxDepth 0 g.inputs [] entries seen ∧
      Command.tree w f style = ⟨0, unlines (entries.flatMap (·.lines g style.showModules)),
        renderWarnings (file.source w.files (options w f)).load.journal.warnings⟩ ∧
      (followed entries).Nodup ∧
      (∀ e ∈ entries, Within style.maxDepth e.depth ∧
        g.ChainTo (fun id => ¬ CutOff style.maxDepth entries id) e.depth e.id) ∧
      ∀ id, (∃ e ∈ entries, e.id = id) ↔
        ∃ n, g.ChainTo (fun id => ¬ CutOff style.maxDepth entries id) n id := by
  obtain ⟨parts, hbuilt⟩ := Source.exists_builtFrom hload
  have hdependencies : ∀ id id', id' ∈ g.packageView.dependencies id ↔ g.DependsOn id id' :=
    fun id id' => hbuilt.mem_dependencies
  -- Dependencies stay among the packages, so the recursion has room: more fuel than packages.
  have hclosed : ∀ id, g.packageView.dependencies id ⊆ g.packages.keys ++ g.inputs := by
    intro id id' hmem
    rw [PackageView.mem_dependencies, Graph.mem_edges_packageView] at hmem
    exact List.mem_append_left _ hmem.2.2
  have hroom : Room (g.packages.keys ++ g.inputs) (g.packages.size + g.inputs.length + 1) [] := by
    refine ⟨List.nodup_nil, List.nil_subset _, ?_⟩
    rw [List.length_append, KeyedSet.keys, List.length_map, KeyedSet.size]
    exact Nat.lt_succ_self _
  obtain ⟨entries, hdraws, -, hlines⟩ :=
    @exists_draws g g.packageView style _ hclosed _ 0 g.inputs ⟨[], []⟩
      (List.subset_append_right _ _) hroom
  refine ⟨entries, _, hdraws, ?_, hdraws.followed_spec.1, fun e he => ?_, fun id => ⟨?_, ?_⟩⟩
  · -- What the command writes is what was drawn.
    have htree : treeLines g style = entries.flatMap (·.lines g style.showModules) := hlines
    exact withGraph_eq hfile hroot hload (by rw [htree])
  · exact ⟨(hdraws.parent e he).1, hdraws.chainTo hdependencies he rfl⟩
  · -- A chain is taken from the entry, and an entry is found along the chain.
    rintro ⟨e, he, rfl⟩
    exact ⟨e.depth, hdraws.chainTo hdependencies he rfl⟩
  · rintro ⟨n, hchain⟩
    exact hdraws.exists_entry hdependencies hchain

/-- A root that depends on a package both by itself and through another one. -/
def diamond : GraphFile where
  manifests :=
    [usingPackages (.root ⟨"/app"⟩) "App" [("kit", "Kit"), ("mid", "Mid")],
      usingPackages (.registry "kit") "Kit" [("mid", "Mid")],
      usingPackages (.registry "mid") "Mid" [("log", "Log")],
      usingPackages (.registry "log") "Log" []]
  rootDependencies := []
  artifacts := KeyedSet.empty
  prebuilts := KeyedSet.empty
  mirrors := KeyedSet.empty

/-- A workspace with nothing but this graph file. -/
def diamondOnly : Workspace where
  graphPath := "graph.json"
  graph := .holds diamond
  userConfig := .missing
  projectConfig := .missing
  files := FileTree.empty.view

/-- With two levels, the package in the middle is met at the limit first, and marked the next time.
-/
theorem draws_diamond {dependencies : Identity → List Identity}
    (happ : dependencies ⟨"app"⟩ = [⟨"kit"⟩, ⟨"mid"⟩]) (hkit : dependencies ⟨"kit"⟩ = [⟨"mid"⟩])
    (hmid : dependencies ⟨"mid"⟩ = [⟨"log"⟩]) :
    Draws dependencies (some 2) 0 [⟨"app"⟩] []
      [⟨0, ⟨"app"⟩, false⟩, ⟨1, ⟨"kit"⟩, false⟩, ⟨2, ⟨"mid"⟩, false⟩, ⟨1, ⟨"mid"⟩, true⟩]
      [⟨"mid"⟩, ⟨"kit"⟩, ⟨"app"⟩] := by
  have hwithin : ∀ k ≤ 2, Within (some 2) k := fun k hk d hd => Option.some.inj hd ▸ hk
  have hbeyond : ¬ Within (some 2) 3 := fun h => absurd (h 2 rfl) (by decide)
  -- From the inside out: below `mid` at the limit, below `kit`, below `app`.
  have hbelowMid : Draws dependencies (some 2) 3 [⟨"log"⟩] [⟨"mid"⟩, ⟨"kit"⟩, ⟨"app"⟩] []
      [⟨"mid"⟩, ⟨"kit"⟩, ⟨"app"⟩] := .cut hbeyond (.done ..)
  rw [← hmid] at hbelowMid
  have hbelowKit := Draws.follow (hwithin 2 (by decide))
    (show (⟨"mid"⟩ : Identity) ∉ [⟨"kit"⟩, ⟨"app"⟩] by decide) hbelowMid (.done ..)
  rw [← hkit] at hbelowKit
  have hbelowApp := Draws.follow (hwithin 1 (by decide))
    (show (⟨"kit"⟩ : Identity) ∉ [⟨"app"⟩] by decide) hbelowKit
    (.again (hwithin 1 (by decide)) (List.mem_cons_self ..) (.done ..))
  rw [← happ] at hbelowApp
  exact Draws.follow (hwithin 0 (by decide)) List.not_mem_nil hbelowApp (.done ..)

/-- The package at the bottom is two dependencies away from the root.  With two levels it has no
line, since the one above it is met at the limit first. -/
theorem tree_shows_diamond :
    ∃ g, (diamond.source diamondOnly.files (options diamondOnly ⟨[], false, []⟩)).load.result =
        .ok g ∧
      g.ChainTo (fun _ => True) 2 ⟨"log"⟩ ∧
      Command.tree diamondOnly ⟨[], false, []⟩ ⟨some 2, false⟩ =
        ⟨0, "'app' (at '/app')\n├── 'kit'\n│   ├── 'mid'\n├── 'mid' (*)\n", ""⟩ := by
  have hloads : ((diamond.source diamondOnly.files
      (options diamondOnly ⟨[], false, []⟩)).load.result.toOption.any fun g =>
        decide (g.inputs = [⟨"app"⟩] ∧
          g.packageView.targets ⟨"app"⟩ = [⟨"kit"⟩, ⟨"mid"⟩] ∧
          g.packageView.targets ⟨"kit"⟩ = [⟨"mid"⟩] ∧
          g.packageView.targets ⟨"mid"⟩ = [⟨"log"⟩] ∧
          packageLabel g ⟨"app"⟩ = "'app' (at '/app')" ∧
          packageLabel g ⟨"kit"⟩ = "'kit'" ∧ packageLabel g ⟨"mid"⟩ = "'mid'")) = true := by
    decide +kernel
  have hsilent : (diamond.source diamondOnly.files
      (options diamondOnly ⟨[], false, []⟩)).load.journal.warnings.isEmpty = true := by
    decide +kernel
  obtain ⟨g, hload, hg⟩ := Except.exists_ok_of_any hloads
  obtain ⟨hinputs, happ, hkit, hmid, happLabel, hkitLabel, hmidLabel⟩ := of_decide_eq_true hg
  -- The targets are in order already.
  have hordered : ∀ {a : Identity} {targets : List Identity},
      g.packageView.targets a = targets → targets.Pairwise (compare · · != .gt) →
        g.packageView.dependencies a = targets := by
    rintro a targets rfl hsorted
    exact List.mergeSort_of_pairwise hsorted
  replace happ := hordered happ (by decide +kernel)
  replace hkit := hordered hkit (by decide +kernel)
  replace hmid := hordered hmid (by decide +kernel)
  obtain ⟨parts, hbuilt⟩ := Source.exists_builtFrom hload
  have hdepends : ∀ {a b : Identity}, b ∈ g.packageView.dependencies a → g.DependsOn a b :=
    hbuilt.mem_dependencies.1
  refine ⟨g, hload, ?_, ?_⟩
  · have hroot : g.ChainTo (fun _ => True) 0 ⟨"app"⟩ := .input (by simp [hinputs])
    have hmiddle : g.ChainTo (fun _ => True) 1 ⟨"mid"⟩ :=
      .next hroot trivial (hdepends (by simp [happ]))
    exact .next hmiddle trivial (hdepends (by simp [hmid]))
  · obtain ⟨entries, seen, hdraws, htree, -⟩ := tree_shows (w := diamondOnly) rfl (by decide) hload
      ⟨some 2, false⟩
    rw [hinputs] at hdraws
    rw [htree, (hdraws.unique (draws_diamond happ hkit hmid)).1, List.isEmpty_iff.1 hsilent]
    simp only [List.flatMap_cons, List.flatMap_nil, Entry.lines, happLabel, hkitLabel, hmidLabel,
      Bool.false_eq_true, if_false, if_true]
    decide +kernel

end Command

end ModuleGraph
