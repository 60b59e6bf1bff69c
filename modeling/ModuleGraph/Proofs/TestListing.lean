import ModuleGraph.Command.Tests
import ModuleGraph.Proofs.ExecutableTests

/-!
# What the command for tests reports

Tests are found for every executable of the root packages, and the command reports them under the
names of the executables alone.  Executables of two packages may have one name.  Of these, the
command reports the last one by the identity of its package, and is silent about the others, so it
reports as many executables as there are exactly if no two of them have the same name.

## Key results

- `mem_testNames_iff`: the report has the last executable of each name
- `size_testNames_iff`: the report leaves out no executable exactly if their names are distinct
- `tests_reports`: what the command writes
-/

namespace ModuleGraph

/-- Of the executables of the root packages with its name, this is the last one. -/
structure Graph.LastNamed (g : Graph) (e : Module) : Prop where
  mem : e ∈ g.executables
  last : ∀ e' ∈ g.executables, e'.name = e.name → compare e'.id e.id ≠ .gt

namespace Command

variable {g : Graph} {tests : SortedMap ModuleId (List Module)}

/-! ### Executables by their names -/

/-- The name of an executable comes again after it exactly if a greater one has this name. -/
theorem name_mem_later_iff {before later : List (ModuleId × List Module)} {id : ModuleId}
    {listed : List Module} (hsplit : tests.toList = before ++ (id, listed) :: later) :
    id.name ∈ later.map (·.1.name) ↔
      ∃ id' ∈ tests.keys, id'.name = id.name ∧ compare id' id = .gt := by
  constructor
  · intro hmem
    obtain ⟨⟨id', listed'⟩, hlater, hname⟩ := List.mem_map.1 hmem
    have hin : (id', listed') ∈ tests.toList := by
      rw [hsplit]
      exact List.mem_append_right _ (List.mem_cons_of_mem _ hlater)
    exact ⟨id', List.mem_map_of_mem hin, hname, (KeyedSet.mem_after_iff hsplit hin).1 hlater⟩
  · rintro ⟨id', hid', hname, hgt⟩
    obtain ⟨entry, hin, rfl⟩ := List.mem_map.1 hid'
    exact List.mem_map.2 ⟨entry, (KeyedSet.mem_after_iff hsplit hin).2 hgt, hname⟩

/-- The report has the tests of the last executable of each name. -/
theorem mem_testNames {name : String} {names : List String} :
    (name, names) ∈ (testNames tests).toList ↔
      ∃ id listed, (id, listed) ∈ tests.toList ∧ id.name = name ∧ listed.map (·.name) = names ∧
        ∀ id' ∈ tests.keys, id'.name = name → compare id' id ≠ .gt := by
  -- An entry stays if its name does not come again, so the order of the executables decides.
  rw [testNames, KeyedSet.mem_ofList_iff]
  constructor
  · rintro ⟨before, after, hsplit, hlast⟩
    obtain ⟨first, rest, htests, rfl, hrest⟩ := List.map_eq_append_iff.1 hsplit
    obtain ⟨⟨id, listed⟩, later, rfl, hentry, rfl⟩ := List.map_eq_cons_iff.1 hrest
    obtain ⟨rfl, rfl⟩ := Prod.mk.inj hentry
    rw [List.map_map] at hlast
    refine ⟨id, listed, by simp [htests], rfl, rfl, fun id' hid' hname hgt => hlast ?_⟩
    exact (name_mem_later_iff htests).2 ⟨id', hid', hname, hgt⟩
  · rintro ⟨id, listed, hmem, rfl, rfl, hlast⟩
    obtain ⟨first, later, htests⟩ := List.append_of_mem hmem
    refine ⟨first.map fun entry => (entry.1.name, entry.2.map (·.name)),
      later.map fun entry => (entry.1.name, entry.2.map (·.name)), by rw [htests]; simp,
      fun hmem => ?_⟩
    rw [List.map_map] at hmem
    obtain ⟨id', hid', hname, hgt⟩ := (name_mem_later_iff htests).1 hmem
    exact hlast id' hid' hname hgt

/-- The report has one entry for each executable exactly if their names are distinct. -/
theorem size_testNames_iff :
    (testNames tests).size = tests.size ↔
      ∀ id ∈ tests.keys, ∀ id' ∈ tests.keys, id.name = id'.name → id = id' := by
  have hsize : tests.size =
      (tests.toList.map fun entry => (entry.1.name, entry.2.map Module.name)).length := by
    rw [List.length_map]
    rfl
  rw [hsize, testNames, KeyedSet.size_ofList_iff, List.map_map]
  show (tests.toList.map (ModuleId.name ∘ Prod.fst)).Nodup ↔ _
  rw [← List.map_map]
  exact List.nodup_map_iff_inj_on tests.nodup_keys

/-! ### The tests of a graph -/

/-- The keys of the tests are the ids of the executables. -/
theorem mem_keys_tests (h : g.testsByExecutable = .ok tests) {id : ModuleId} :
    id ∈ tests.keys ↔ ∃ e ∈ g.executables, e.id = id := by
  rw [← Graph.contains_testsByExecutable h, KeyedSet.contains_iff]
  exact List.mem_map

/-- The report of a graph has the last executable of each name, with the names of its tests. -/
theorem mem_testNames_iff (h : g.testsByExecutable = .ok tests) {name : String}
    {names : List String} :
    (name, names) ∈ (testNames tests).toList ↔
      ∃ e listed, g.LastNamed e ∧ e.name = name ∧ SortedMap.get? tests e.id = some listed ∧
        listed.map (·.name) = names := by
  rw [mem_testNames]
  constructor
  · rintro ⟨id, listed, hmem, rfl, hnames, hlast⟩
    obtain ⟨e, he, rfl⟩ := (mem_keys_tests h).1 (List.mem_map_of_mem hmem)
    refine ⟨e, listed, ⟨he, fun e' he' hname => ?_⟩, rfl, SortedMap.get?_eq_some_iff.2 hmem, hnames⟩
    exact hlast e'.id ((mem_keys_tests h).2 ⟨e', he', rfl⟩) hname
  · rintro ⟨e, listed, he, rfl, hget, hnames⟩
    refine ⟨e.id, listed, SortedMap.get?_eq_some_iff.1 hget, rfl, hnames, fun id' hid' hname => ?_⟩
    obtain ⟨e', he', rfl⟩ := (mem_keys_tests h).1 hid'
    exact he.last e' he' hname

/-- The report of a graph leaves out no executable exactly if no two have the same name. -/
theorem size_testNames (h : g.testsByExecutable = .ok tests) :
    (testNames tests).size = tests.size ↔
      ∀ e ∈ g.executables, ∀ e' ∈ g.executables, e.name = e'.name → e.id = e'.id := by
  rw [size_testNames_iff]
  simp only [mem_keys_tests h, forall_exists_index, and_imp, forall_apply_eq_imp_iff₂]
  rfl

variable {w : Workspace} {f : Flags} {file : GraphFile}

/-- What a command does with the graph that is made from a graph file. -/
theorem withGraph_eq {write : Graph → List Diagnostic → Except GraphError Outcome}
    {outcome : Outcome} (hfile : w.graph = .holds file) (hroot : file.hasRoot = true)
    (hload : (file.source w.files (options w f)).load.result = .ok g)
    (hwrite : write g (file.source w.files (options w f)).load.journal.warnings = .ok outcome) :
    withGraph w f write = outcome := by
  have hbind : (file.source w.files (options w f)).load.result.bind
      (fun g => write g (file.source w.files (options w f)).load.journal.warnings) =
        .ok outcome := by
    rw [hload]
    exact hwrite
  unfold withGraph
  rw [hfile]
  simp only [hroot, Bool.not_true, Bool.false_eq_true, if_false, hbind]

/-- The command reports, as text or as JSON, the last executable of each name with exactly the
tests that are found for it, ascending by these names.  It leaves out no executable exactly if no
two of the root packages have the same name. -/
theorem tests_reports (hfile : w.graph = .holds file) (hroot : file.hasRoot = true)
    (hload : (file.source w.files (options w f)).load.result = .ok g)
    (htests : g.testsByExecutable = .ok tests) :
    ∃ report : List (String × List String),
      Command.tests w f false = ⟨0,
        if report.isEmpty then "No executable modules in the root packages\n"
        else unlines (report.map fun (name, names) =>
          name ++ ": " ++ if names.isEmpty then "(no tests)" else ", ".intercalate names),
        renderWarnings (file.source w.files (options w f)).load.journal.warnings⟩ ∧
      Command.tests w f true = ⟨0,
        (Json.record (report.map fun (name, names) => (name, .texts names))).pretty ++ "\n", ""⟩ ∧
      (report.Pairwise fun entry later => compare entry.1 later.1 = .lt) ∧
      (∀ name names, (name, names) ∈ report ↔
        ∃ e listed, g.LastNamed e ∧ e.name = name ∧ SortedMap.get? tests e.id = some listed ∧
          listed.map (·.name) = names) ∧
      (report.length = tests.size ↔
        ∀ e ∈ g.executables, ∀ e' ∈ g.executables, e.name = e'.name → e.id = e'.id) := by
  refine ⟨(testNames tests).toList, ?text, ?json, (testNames tests).ascending,
    fun _ _ => mem_testNames_iff htests, size_testNames htests⟩
  case text => exact withGraph_eq hfile hroot hload (by rw [htests]; rfl)
  case json => exact withGraph_eq hfile hroot hload (by rw [htests]; rfl)

/-- Two roots, each with an executable and a test of it; the executables have one name. -/
def namesakes : GraphFile :=
  let manifest (name : String) (path : Path) (testName : String) : Manifest :=
    { Manifest.bare (.root path) name with
      modules :=
        [⟨"Tool", .executable, none, []⟩,
          ⟨testName, .test, none, [⟨.module "Tool", none⟩]⟩] }
  { manifests := [manifest "Left" ⟨"left"⟩ "LeftTests", manifest "Right" ⟨"right"⟩ "RightTests"]
    rootDependencies := []
    artifacts := KeyedSet.empty
    prebuilts := KeyedSet.empty
    mirrors := KeyedSet.empty }

/-- A workspace with nothing but this graph file. -/
def namesakesOnly : Workspace where
  graphPath := "graph.json"
  graph := .holds namesakes
  userConfig := .missing
  projectConfig := .missing
  files := FileTree.empty.view

/-- Of two executables with one name, the command reports only the last one. -/
theorem tests_reports_namesakes :
    ∃ g tests, (namesakes.source namesakesOnly.files
        (options namesakesOnly ⟨[], false, []⟩)).load.result = .ok g ∧
      g.testsByExecutable = .ok tests ∧ tests.size = 2 ∧
      Command.tests namesakesOnly ⟨[], false, []⟩ false = ⟨0, "Tool: RightTests\n", ""⟩ := by
  let left : ModuleId := ⟨⟨"left"⟩, "Tool"⟩
  let right : ModuleId := ⟨⟨"right"⟩, "Tool"⟩
  have hloads : ((namesakes.source namesakesOnly.files
      (options namesakesOnly ⟨[], false, []⟩)).load.result.toOption.any fun g =>
        decide g.DistinctModuleNames && decide (g.executables.map (·.id) = [left, right]) &&
          g.executables.any fun e => decide (e.id = right) &&
            (g.covered e).toOption.any fun made =>
              decide ((g.rootModules.filter (g.testsAny made)).map (·.name) = ["RightTests"])) =
      true := by
    decide +kernel
  have hsilent : (namesakes.source namesakesOnly.files
      (options namesakesOnly ⟨[], false, []⟩)).load.journal.warnings.isEmpty = true := by
    decide +kernel
  obtain ⟨g, hload, hg⟩ := Except.exists_ok_of_any hloads
  simp only [Bool.and_eq_true, decide_eq_true_eq, List.any_eq_true] at hg
  obtain ⟨⟨hnames, hids⟩, e, he, hid, hany⟩ := hg
  obtain ⟨made, hcovered, hchosen⟩ := Except.exists_ok_of_any hany
  obtain ⟨parts, hbuilt⟩ := Source.exists_builtFrom hload
  obtain ⟨tests, htests, hkeys, hlists⟩ := hbuilt.exists_testsByExecutable hnames
  obtain ⟨report, htext, -, hascending, hreport, -⟩ :=
    tests_reports (w := namesakesOnly) rfl (by decide) hload htests
  have hexecutable {e' : Module} (he' : e' ∈ g.executables) : e'.id = left ∨ e'.id = right := by
    have hmem := List.mem_map_of_mem (f := (·.id)) he'
    rw [hids] at hmem
    simpa using hmem
  have hlast : g.LastNamed e := by
    refine ⟨he, fun e' he' _ => ?_⟩
    rw [hid]
    rcases hexecutable he' with hid' | hid' <;> rw [hid'] <;> decide +kernel
  obtain ⟨listed, hget, hlisted, -⟩ := hlists e he
  have hright : listed.map (·.name) = ["RightTests"] := by
    refine List.perm_singleton.1 ?_
    rw [← of_decide_eq_true hchosen]
    exact (Graph.perm_of_testsOf hcovered hlisted).map _
  -- All executables have the one name, so there is no other entry.
  have hreported : ("Tool", ["RightTests"]) ∈ report :=
    (hreport _ _).2 ⟨e, listed, hlast, congrArg ModuleId.name hid, hget, hright⟩
  have hname : ∀ entry ∈ report, entry.1 = "Tool" := by
    rintro ⟨name, names⟩ hentry
    obtain ⟨e', -, hlast', rfl, -⟩ := (hreport _ _).1 hentry
    rcases hexecutable hlast'.mem with hid' | hid' <;> exact congrArg ModuleId.name hid'
  have hsingle : report = [("Tool", ["RightTests"])] := by
    refine List.eq_singleton_of_pairwise hascending hreported
      fun entry hentry later hlater hlt => ?_
    rw [hname entry hentry, hname later hlater, Std.ReflOrd.compare_self] at hlt
    exact nomatch hlt
  -- There are two executables all the same.
  refine ⟨g, tests, hload, htests, ?_, ?_⟩
  · have hlength := hkeys.length_eq
    rw [hids] at hlength
    exact (List.length_map _).symm.trans hlength
  · rw [htext, hsingle, List.isEmpty_iff.1 hsilent]
    rfl

end Command

end ModuleGraph
