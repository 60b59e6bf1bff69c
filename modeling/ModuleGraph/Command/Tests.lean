import ModuleGraph.Command.Check
import ModuleGraph.Graph.Query

/-! # The command that lists tests

It lists the tests of every executable of the root packages, executables and tests by their names
alone. -/

namespace ModuleGraph.Command

/-- Names of tests by names of executables; of executables with one name the last counts. -/
def testNames (tests : SortedMap ModuleId (List Module)) : SortedMap String (List String) :=
  KeyedSet.ofList (tests.toList.map fun (id, ms) => (id.name, ms.map (·.name)))

/-- A line for an executable. -/
def testLine (entry : String × List String) : String :=
  entry.1 ++ ": " ++ if entry.2.isEmpty then "(no tests)" else ", ".intercalate entry.2

/-- The tests as text. -/
def testText (names : SortedMap String (List String)) : String :=
  if names.isEmpty then "No executable modules in the root packages\n"
  else unlines (names.toList.map testLine)

/-- The tests as JSON. -/
def testJson (names : SortedMap String (List String)) : Json :=
  .record (names.toList.map fun (executable, tests) => (executable, .texts tests))

/-- The command. -/
def tests (w : Workspace) (f : Flags) (asJson : Bool) : Outcome :=
  withGraph w f fun g warnings => do
    let names := testNames (← g.testsByExecutable)
    if asJson then pure ⟨0, (testJson names).pretty ++ "\n", ""⟩
    else pure ⟨0, testText names, renderWarnings warnings⟩

end ModuleGraph.Command
