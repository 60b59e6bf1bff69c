import ModuleGraph.Command.Check
import ModuleGraph.Graph.PackageView
import ModuleGraph.Graph.Query

/-! # The command that draws the tree of packages

Every input package is followed by what it depends on, one level deeper.  A package that has been
drawn before is marked and not followed again, so cycles end as well. -/

namespace ModuleGraph.Command

/-- How the tree is drawn. -/
structure TreeStyle where
  /-- The greatest depth to draw; without one there is no limit. -/
  maxDepth : Option Nat
  /-- Whether the modules of packages are drawn. -/
  showModules : Bool

/-- The lines drawn so far, and the packages that have been drawn. -/
structure Drawing where
  lines : List String
  seen : List Identity

/-- A bar for each level. -/
def bars (n : Nat) : String := String.join (List.replicate n "│   ")

/-- What stands before a package at some depth. -/
def branch (depth : Nat) : String := if depth = 0 then "" else bars (depth - 1) ++ "├── "

/-- How a package is called. -/
def packageLabel (g : Graph) (id : Identity) : String :=
  match g.package? id with
  | some p => p.describe
  | none => s!"'{id}'"

/-- The lines for the modules of a package. -/
def moduleLines (g : Graph) (depth : Nat) (id : Identity) : List String :=
  match g.package? id with
  | some p => p.modules.map fun m => bars depth ++ s!"│   {m.name} ({m.kind.write})"
  | none => []

/-- Draws packages and what is below them.  `fuel` bounds the depth; since no package is followed
twice, the number of packages is enough. -/
def drawPackages (g : Graph) (view : PackageView) (style : TreeStyle) :
    (fuel : Nat) → (depth : Nat) → Drawing → List Identity → Drawing
  | 0, _, d, _ => d
  | fuel + 1, depth, d, ids =>
    ids.foldl (fun d id =>
      if style.maxDepth.any (· < depth) then d
      else
        let line := branch depth ++ packageLabel g id
        if d.seen.contains id then { d with lines := d.lines ++ [line ++ " (*)"] }
        else
          let own := if style.showModules then moduleLines g depth id else []
          drawPackages g view style fuel (depth + 1)
            ⟨d.lines ++ [line] ++ own, id :: d.seen⟩ (view.dependencies id)) d

/-- The tree as lines. -/
def treeLines (g : Graph) (style : TreeStyle) : List String :=
  let fuel := g.packages.size + g.inputs.length + 1
  (drawPackages g g.packageView style fuel 0 ⟨[], []⟩ g.inputs).lines

/-- The command. -/
def tree (w : Workspace) (f : Flags) (style : TreeStyle) : Outcome :=
  withGraph w f fun g warnings => .ok ⟨0, unlines (treeLines g style), renderWarnings warnings⟩

end ModuleGraph.Command
