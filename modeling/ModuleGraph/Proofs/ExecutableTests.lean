import ModuleGraph.Graph.Query
import ModuleGraph.Proofs.LoadedGraph

/-!
# The tests of executables

An executable comprises itself and the modules that it leads to along edges to modules.  Edges to
products are not followed, conditions are not asked for, and only the executable itself may lead to
plugins.  A test belongs to an executable if it names something of that.  No module leads back to
itself, so the modules behind an executable can always be listed, and every executable has its list
of tests.

## Key results

- `Source.BuiltFrom.exists_covered`: what an executable comprises is found
- `Source.BuiltFrom.exists_testsOf`: exactly the tests that name something of it are listed
- `Source.load_testsByExecutable`: every executable of the roots has the list of its tests
-/

namespace ModuleGraph

open Relation (ReflTransGen TransGen)

namespace Graph

/-- No two modules of a package of the graph have the same name. -/
def DistinctModuleNames (g : Graph) : Prop :=
  ∀ p ∈ g.packages.toList, (p.modules.map Module.name).Nodup

instance (g : Graph) : Decidable g.DistinctModuleNames :=
  inferInstanceAs (Decidable (∀ p ∈ g.packages.toList, _))

/-- The executables of the root packages. -/
def executables (g : Graph) : List Module := g.rootModules.filter fun m => m.kind == .executable

/-- A module names another one directly, whatever the conditions of the edge are. -/
def NamesModule (g : Graph) (m n : Module) : Prop :=
  n ∈ g.allModules.toList ∧ ∃ e ∈ m.edges, e.target = .module n.id

/-- A module names another one that is no plugin. -/
def NamesPart (g : Graph) (m n : Module) : Prop := g.NamesModule m n ∧ n.kind ≠ .plugin

/-- An executable comprises itself, the modules that it names, plugins too, and what these lead to
when plugins are left out. -/
def Comprises (g : Graph) (e m : Module) : Prop :=
  m = e ∨ ∃ n, g.NamesModule e n ∧ ReflTransGen g.NamesPart n m

/-- A list has exactly the tests of the root packages that name a part of an executable which is no
plugin, once each and ascending. -/
structure ListsTests (g : Graph) (e : Module) (tests : List Module) : Prop where
  mem : ∀ t, t ∈ tests ↔
    t ∈ g.rootModules ∧ t.kind = .test ∧ ∃ m, g.NamesPart t m ∧ g.Comprises e m
  ascending : tests.Pairwise fun t t' => compare t.id t'.id = .lt

/-- Whether a module is a test that names one of some modules. -/
def testsAny (g : Graph) (made : SortedSet ModuleId) (m : Module) : Bool :=
  match SortedMap.get? g.testSubjects m.id with
  | some subjects => !subjects.disjoint made
  | none => false

variable {g : Graph} {m n : Module} {starts : List Module}

/-! ### Edges to modules -/

/-- The modules that a module names are found by their ids. -/
theorem mem_moduleEdges {withPlugins : Bool} :
    n ∈ g.moduleEdges withPlugins m ↔
      g.NamesModule m n ∧ (withPlugins = true ∨ n.kind ≠ .plugin) := by
  have hfound : n ∈ m.edges.filterMap (fun e => e.module?.bind g.module?) ↔ g.NamesModule m n := by
    rw [List.mem_filterMap]
    constructor
    · rintro ⟨e, he, hbind⟩
      obtain ⟨id, htarget, hfind⟩ := Option.bind_eq_some_iff.1 hbind
      obtain ⟨hn, rfl⟩ := KeyedSet.find?_eq_some_iff.1 hfind
      unfold Edge.module? at htarget
      split at htarget
      · next heq => exact ⟨hn, e, he, Option.some.inj htarget ▸ heq⟩
      · exact nomatch htarget
    · rintro ⟨hn, e, he, htarget⟩
      refine ⟨e, he, ?_⟩
      rw [Edge.module?, htarget]
      exact KeyedSet.find?_eq_some_iff.2 ⟨hn, rfl⟩
  rw [moduleEdges, List.mem_filter, hfound]
  simp

/-- Without plugins, these are the parts that a module names. -/
theorem mem_moduleEdges_false : n ∈ g.moduleEdges false m ↔ g.NamesPart m n := by
  rw [mem_moduleEdges, NamesPart]
  simp

/-- With plugins, these are all modules that a module names. -/
theorem mem_moduleEdges_true : n ∈ g.moduleEdges true m ↔ g.NamesModule m n := by
  rw [mem_moduleEdges]
  simp

/-- The nodes of the graph without plugins are those of the whole graph. -/
theorem mem_nodes_pluginFreeGraph (hstarts : ∀ a ∈ starts, a ∈ g.allModules.toList) :
    m ∈ (g.pluginFreeGraph starts).nodes ↔ m ∈ g.allModules.toList := by
  show m ∈ starts ++ g.allModules.toList ↔ m ∈ g.allModules.toList
  rw [List.mem_append]
  exact ⟨fun h => h.elim (hstarts m) id, .inr⟩

/-- Modules lead to modules of the graph. -/
theorem covers_pluginFreeGraph : (g.pluginFreeGraph starts).Covers starts where
  starts := fun _ ha => List.mem_append_left _ ha
  successors := fun _ _ _ hb => List.mem_append_right _ (mem_moduleEdges_false.1 hb).1.1

/-- The tests of an executable are those that name something of it. -/
theorem testsOf_eq : g.testsOf m = (g.covered m).map fun made =>
    (g.rootModules.filter (g.testsAny made)).mergeSort fun a b => compare a.id b.id != .gt := by
  unfold testsOf
  cases g.covered m <;> rfl

/-- Before they are sorted, the tests of an executable are the modules that are chosen. -/
theorem perm_of_testsOf {made : SortedSet ModuleId} {tests : List Module}
    (hcovered : g.covered m = .ok made) (h : g.testsOf m = .ok tests) :
    tests.Perm (g.rootModules.filter (g.testsAny made)) := by
  rw [testsOf_eq, hcovered] at h
  rw [← Except.ok.inj h]
  exact List.mergeSort_perm ..

/-- The executables of the root packages are their modules of this kind. -/
theorem mem_executables : m ∈ g.executables ↔ m ∈ g.rootModules ∧ m.kind = .executable := by
  rw [executables, List.mem_filter, beq_iff_eq]

/-- The tests of all executables are made of an entry for each of them. -/
theorem testsByExecutable_ok {tests : SortedMap ModuleId (List Module)} :
    g.testsByExecutable = .ok tests ↔ ∃ entries : List (ModuleId × List Module),
      List.Forall₂ (fun e entry => entry.1 = e.id ∧ g.testsOf e = .ok entry.2)
        g.executables entries ∧ tests = KeyedSet.ofList entries := by
  -- An entry is made for an executable exactly if its tests are found.
  have hentry (e : Module) (entry : ModuleId × List Module) :
      (do pure (e.id, ← g.testsOf e) : Except GraphError (ModuleId × List Module)) = .ok entry ↔
        entry.1 = e.id ∧ g.testsOf e = .ok entry.2 := by
    obtain ⟨id, listed⟩ := entry
    cases g.testsOf e with
    | error err => simp [bind, Except.bind]
    | ok tests => simp [bind, Except.bind, pure, Except.pure, eq_comm]
  show (g.executables.mapM fun e => do pure (e.id, ← g.testsOf e)) >>=
    (fun entries => pure (KeyedSet.ofList entries)) = .ok tests ↔ _
  simp only [Except.bind_eq_ok, Except.mapM_eq_ok, hentry]
  refine exists_congr fun entries => and_congr_right fun _ => ?_
  exact ⟨fun h => (Except.ok.inj h).symm, fun h => congrArg Except.ok h.symm⟩

/-- There are tests for exactly the executables of the root packages. -/
theorem contains_testsByExecutable {tests : SortedMap ModuleId (List Module)}
    (h : g.testsByExecutable = .ok tests) {id : ModuleId} :
    tests.contains id = true ↔ ∃ e ∈ g.executables, e.id = id := by
  obtain ⟨entries, hitems, rfl⟩ := testsByExecutable_ok.1 h
  rw [KeyedSet.contains_ofList]
  constructor
  · rintro ⟨entry, hmem, rfl⟩
    obtain ⟨e, he, hid, -⟩ := hitems.exists_of_mem_right hmem
    exact ⟨e, he, hid.symm⟩
  · rintro ⟨e, he, rfl⟩
    obtain ⟨entry, hmem, hid, -⟩ := hitems.exists_of_mem_left he
    exact ⟨entry, hmem, hid⟩

end Graph

namespace Source.BuiltFrom

variable {s : Source} {g : Graph} {parts : Parts} (h : s.BuiltFrom g parts)
  (hnames : g.DistinctModuleNames)
include h hnames

/-! ### Modules by id -/

/-- No two modules of some packages of the graph have the same id. -/
theorem nodup_moduleIds {packages : PackageSet}
    (hsub : ∀ p ∈ packages.toList, p ∈ g.packages.toList) :
    ((packages.toList.flatMap (·.modules)).map Module.id).Nodup :=
  ModuleGraph.nodup_moduleIds packages.nodup_keys (fun p hp => (h.ids (hsub p hp)).1)
    fun p hp => hnames p (hsub p hp)

/-- No two modules of the root packages have the same id. -/
theorem nodup_rootModuleIds : (g.rootModules.map Module.id).Nodup :=
  h.nodup_moduleIds hnames fun _ hp => (h.mem_rootPackages.1 hp).1

/-- The modules of root packages are found in the whole graph. -/
theorem mem_allModules_of_rootModules {m : Module} (hm : m ∈ g.rootModules) :
    m ∈ g.allModules.toList := by
  obtain ⟨p, hp, hmem⟩ := List.mem_flatMap.1 hm
  rw [h.allModules, KeyedSet.mem_ofList_of_nodup (h.nodup_moduleIds hnames fun _ hp => hp)]
  exact List.mem_flatMap.2 ⟨p, (h.mem_rootPackages.1 hp).1, hmem⟩

/-- The modules of a graph are those that were assembled. -/
theorem allModules_eq : g.allModules = parts.assembled.lookup.modules := by
  have hperm := KeyedSet.toList_ofList_perm h.assembles.ids.1
  have hnodup := h.nodup_moduleIds hnames fun _ hp => hp
  rw [h.allModules]
  rw [h.madeOf.packages] at hnodup ⊢
  exact KeyedSet.ofList_perm (hperm.flatMap_right _) hnodup

/-- No module leads back to itself along edges to modules. -/
theorem not_namesModule_back {m : Module} (hm : m ∈ g.allModules.toList) :
    ¬ TransGen g.NamesModule m m := by
  obtain ⟨_, -, hcheck⟩ := Except.bind_eq_ok.1 h.checked
  obtain ⟨_, hmodules, -⟩ := Except.bind_eq_ok.1 hcheck
  have heq := h.allModules_eq hnames
  rw [heq] at hm
  intro hback
  -- A way back would be a cycle of uses, which the check of the modules refuses.
  have huses : TransGen parts.assembled.lookup.Uses m m := by
    refine TransGen.mono (fun a b hstep => ?_) m m hback
    obtain ⟨hb, e, he, htarget⟩ := hstep
    exact ⟨heq ▸ hb, e, he, .inl htarget⟩
  exact Assembly.Assembled.acyclic_of_checkModules hmodules m hm ((Lookup.onCycle_iff hm).2 huses)

/-! ### The tests of one executable -/

/-- What an executable comprises is found. -/
theorem exists_covered (e : Module) :
    ∃ made, g.covered e = .ok made ∧ ∀ id, id ∈ made.toList ↔ ∃ m, m.id = id ∧ g.Comprises e m := by
  have hstarts : ∀ a ∈ g.moduleEdges true e, a ∈ g.allModules.toList :=
    fun a ha => (Graph.mem_moduleEdges_true.1 ha).1
  have hdist : (g.pluginFreeGraph (g.moduleEdges true e)).DistinctKeys := fun a ha b hb hkey =>
    KeyedSet.key_inj ((Graph.mem_nodes_pluginFreeGraph hstarts).1 ha)
      ((Graph.mem_nodes_pluginFreeGraph hstarts).1 hb) hkey
  -- No module names itself by a way of edges, so what the edges lead to can be sorted.
  obtain ⟨sorted, hsort, hmem⟩ := hdist.exists_sort Graph.covers_pluginFreeGraph
    (r := g.NamesPart) Graph.mem_moduleEdges_false fun a ha hback =>
      h.not_namesModule_back hnames ((Graph.mem_nodes_pluginFreeGraph hstarts).1 ha)
        (TransGen.mono (fun _ _ hpart => hpart.1) a a hback)
  refine ⟨_, by rw [Graph.covered, hsort]; rfl, fun id => ?_⟩
  -- The executable itself is put in.
  rw [SortedSet.mem_insert, SortedSet.mem_ofList, List.mem_map]
  constructor
  · rintro (rfl | ⟨m, hm, rfl⟩)
    · exact ⟨e, rfl, .inl rfl⟩
    · obtain ⟨a, ha, hwalk⟩ := (hmem m).1 hm
      exact ⟨m, rfl, .inr ⟨a, Graph.mem_moduleEdges_true.1 ha, hwalk⟩⟩
  · rintro ⟨m, rfl, rfl | ⟨n, hn, hwalk⟩⟩
    · exact .inl rfl
    · exact .inr ⟨m, (hmem m).2 ⟨n, Graph.mem_moduleEdges_true.2 hn, hwalk⟩, rfl⟩

/-- The subjects of a test of the root packages are the parts that it names. -/
theorem get?_testSubjects {t : Module} (ht : t ∈ g.rootModules) {subjects : SortedSet ModuleId} :
    SortedMap.get? g.testSubjects t.id = some subjects ↔
      t.isTest = true ∧ subjects = KeyedSet.ofList ((g.moduleEdges false t).map (·.id)) := by
  have hids := h.nodup_rootModuleIds hnames
  -- No two tests of the roots have one id, so none takes the place of another.
  have hnodup : (((g.rootModules.filter (·.isTest)).map fun m => (m.id,
      (KeyedSet.ofList ((g.moduleEdges false m).map (·.id)) : SortedSet ModuleId))).map
      Prod.fst).Nodup := by
    rw [List.map_map]
    exact hids.sublist (List.filter_sublist.map _)
  rw [SortedMap.get?_eq_some_iff, Graph.testSubjects, KeyedSet.mem_ofList_of_nodup hnodup,
    List.mem_map]
  constructor
  · rintro ⟨t', ht', heq⟩
    obtain ⟨hmem, htest⟩ := List.mem_filter.1 ht'
    obtain ⟨hid, rfl⟩ := Prod.mk.inj heq
    obtain rfl := List.inj_on_of_nodup_map hids hmem ht hid
    exact ⟨htest, rfl⟩
  · rintro ⟨htest, rfl⟩
    exact ⟨t, List.mem_filter.2 ⟨ht, htest⟩, rfl⟩

/-- A test is chosen for an executable if it names a part of it. -/
theorem testsAny_iff {e t : Module} (he : e ∈ g.rootModules) (ht : t ∈ g.rootModules)
    {made : SortedSet ModuleId}
    (hmade : ∀ id, id ∈ made.toList ↔ ∃ m, m.id = id ∧ g.Comprises e m) :
    g.testsAny made t = true ↔ t.kind = .test ∧ ∃ m, g.NamesPart t m ∧ g.Comprises e m := by
  have hkind : t.isTest = true ↔ t.kind = .test := by simp [Module.isTest]
  have hall {m : Module} (hm : g.Comprises e m) : m ∈ g.allModules.toList := by
    rcases hm with rfl | ⟨n, hn, hwalk⟩
    · exact h.mem_allModules_of_rootModules hnames he
    · rcases ReflTransGen.cases_tail hwalk with rfl | ⟨_, -, hpart⟩
      · exact hn.1
      · exact hpart.1.1
  unfold Graph.testsAny
  cases hget : SortedMap.get? g.testSubjects t.id with
  | none =>
    refine iff_of_false Bool.false_ne_true fun ⟨htest, _⟩ => ?_
    have hsome := (h.get?_testSubjects hnames ht).2 ⟨hkind.2 htest, rfl⟩
    rw [hget] at hsome
    exact nomatch hsome
  | some subjects =>
    obtain ⟨htest, rfl⟩ := (h.get?_testSubjects hnames ht).1 hget
    dsimp only
    rw [KeyedSet.disjoint, Bool.not_not, List.any_eq_true, and_iff_right (hkind.1 htest)]
    simp only [KeyedSet.keys, List.map_id, SortedSet.contains_iff_mem, SortedSet.mem_ofList, hmade]
    constructor
    · rintro ⟨id, hid, m, rfl, hm⟩
      obtain ⟨n, hn, hsame⟩ := List.mem_map.1 hid
      have hpart := Graph.mem_moduleEdges_false.1 hn
      -- Ids are distinct, so the part of the executable is what the test names.
      obtain rfl := KeyedSet.key_inj hpart.1.1 (hall hm) hsame
      exact ⟨n, hpart, hm⟩
    · rintro ⟨m, hpart, hm⟩
      exact ⟨m.id, List.mem_map_of_mem (Graph.mem_moduleEdges_false.2 hpart), m, rfl, hm⟩

/-- The tests that name a part of an executable are listed. -/
theorem exists_testsOf {e : Module} (he : e ∈ g.rootModules) :
    ∃ tests, g.testsOf e = .ok tests ∧ g.ListsTests e tests := by
  obtain ⟨made, hcovered, hmade⟩ := h.exists_covered hnames e
  refine ⟨_, by rw [Graph.testsOf_eq, hcovered]; rfl, fun t => ?_, ?_⟩
  · rw [List.mem_mergeSort, List.mem_filter]
    exact and_congr_right fun ht => h.testsAny_iff hnames he ht hmade
  · have hids := h.nodup_rootModuleIds hnames
    exact List.pairwise_lt_mergeSort (hids.sublist (List.filter_sublist.map _))

/-- The tests of all executables are listed. -/
theorem exists_testsByExecutable :
    ∃ tests, g.testsByExecutable = .ok tests ∧
      tests.keys.Perm (g.executables.map (·.id)) ∧
      ∀ e ∈ g.executables, ∃ listed, SortedMap.get? tests e.id = some listed ∧
        g.testsOf e = .ok listed ∧ g.ListsTests e listed := by
  have hlists : ∀ e ∈ g.executables, ∃ tests, g.testsOf e = .ok tests ∧ g.ListsTests e tests :=
    fun e he => h.exists_testsOf hnames (Graph.mem_executables.1 he).1
  have hentries : ∀ e ∈ g.executables, ∃ entry : ModuleId × List Module,
      entry.1 = e.id ∧ g.testsOf e = .ok entry.2 := by
    intro e he
    obtain ⟨tests, htests, -⟩ := hlists e he
    exact ⟨(e.id, tests), rfl, htests⟩
  obtain ⟨entries, hitems⟩ := List.exists_forall₂ hentries
  -- The ids of executables are distinct, so no entry takes the place of another one.
  have hids : (g.executables.map (·.id)).Nodup :=
    (h.nodup_rootModuleIds hnames).sublist (List.filter_sublist.map _)
  rw [hitems.map_eq fun e entry hentry => hentry.1.symm] at hids ⊢
  refine ⟨_, Graph.testsByExecutable_ok.2 ⟨entries, hitems, rfl⟩,
    (KeyedSet.toList_ofList_perm hids).map Prod.fst, fun e he => ?_⟩
  obtain ⟨tests, htests, hexact⟩ := hlists e he
  obtain ⟨entry, hmem, hid, hlisted⟩ := hitems.exists_of_mem_left he
  have hentry : entry = (e.id, tests) :=
    Prod.ext hid (Except.ok.inj (hlisted.symm.trans htests))
  refine ⟨tests, SortedMap.get?_eq_some_iff.2 ?_, htests, hexact⟩
  rw [KeyedSet.mem_ofList_of_nodup hids, ← hentry]
  exact hmem

end Source.BuiltFrom

/-- Where module names do not repeat in a package, every executable of the root packages of a loaded
graph has one list of tests: exactly those tests of the root packages that name a module which is no
plugin and is the executable, or can be reached from it along edges to modules of which only the
first one may lead to a plugin. -/
theorem Source.load_testsByExecutable {s : Source} {g : Graph} (h : s.load.result = .ok g)
    (hnames : g.DistinctModuleNames) :
    ∃ tests, g.testsByExecutable = .ok tests ∧
      tests.keys.Perm (g.executables.map (·.id)) ∧
      ∀ e ∈ g.executables, ∃ listed, SortedMap.get? tests e.id = some listed ∧
        g.testsOf e = .ok listed ∧ g.ListsTests e listed := by
  obtain ⟨parts, hbuilt⟩ := exists_builtFrom h
  exact hbuilt.exists_testsByExecutable hnames

/-- A root with an executable that names a plugin and a library.  Both name modules in turn, the
library another plugin; every module has a test. -/
def tested : Source :=
  let names (modules : List String) : List ModuleDependency :=
    modules.map fun name => ⟨.module name, none⟩
  Source.ofManifests
    [{ Manifest.bare (.root ⟨"app"⟩) "App" with
        modules :=
          [⟨"Tool", .executable, none, names ["Gen", "Core"]⟩,
            ⟨"Gen", .plugin, none, names ["Grammar"]⟩,
            ⟨"Core", .library, none, names ["Lint"]⟩,
            ⟨"Lint", .plugin, none, names ["Rules"]⟩,
            ⟨"Grammar", .library, none, []⟩,
            ⟨"Rules", .library, none, []⟩,
            ⟨"ToolTests", .test, none, names ["Tool"]⟩,
            ⟨"GenTests", .test, none, names ["Gen"]⟩,
            ⟨"CoreTests", .test, none, names ["Core"]⟩,
            ⟨"GrammarTests", .test, none, names ["Grammar"]⟩,
            ⟨"RulesTests", .test, none, names ["Rules"]⟩] }]

/-- What the executable and its own plugin lead to is tested for it; the plugin itself is not, and
neither is what only the plugin of the library leads to. -/
theorem load_testsByExecutable_tested :
    ∃ g e, tested.load.result = .ok g ∧ g.DistinctModuleNames ∧
      e ∈ g.executables ∧ ∃ listed, g.testsOf e = .ok listed ∧ g.ListsTests e listed ∧
        (listed.map (·.name)).Perm ["ToolTests", "CoreTests", "GrammarTests"] := by
  have hloads : (tested.load.result.toOption.any fun g => decide g.DistinctModuleNames &&
      g.executables.any fun e => (g.covered e).toOption.any fun made =>
        decide ((g.rootModules.filter (g.testsAny made)).map (·.name) =
          ["ToolTests", "CoreTests", "GrammarTests"])) = true := by
    decide +kernel
  obtain ⟨g, h, hg⟩ := Except.exists_ok_of_any hloads
  simp only [Bool.and_eq_true, decide_eq_true_eq, List.any_eq_true] at hg
  obtain ⟨hnames, e, he, hany⟩ := hg
  obtain ⟨made, hcovered, hchosen⟩ := Except.exists_ok_of_any hany
  obtain ⟨tests, -, -, hlists⟩ := Source.load_testsByExecutable h hnames
  obtain ⟨listed, -, htests, hlisted⟩ := hlists e he
  refine ⟨g, e, h, hnames, he, listed, htests, hlisted, ?_⟩
  rw [← of_decide_eq_true hchosen]
  exact (Graph.perm_of_testsOf hcovered htests).map _

end ModuleGraph
