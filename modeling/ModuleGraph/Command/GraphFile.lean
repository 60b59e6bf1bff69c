import ModuleGraph.Manifest.Decode
import ModuleGraph.Graph.Load
import ModuleGraph.Config

/-! # Graph files

A graph file has the manifests of a graph and what else it is made from.  At least one of the
manifests has to be that of a root package. -/

namespace ModuleGraph

/-- The contents of a graph file. -/
structure GraphFile where
  manifests : List Manifest
  rootDependencies : List Dependency
  artifacts : Artifacts
  prebuilts : Prebuilts
  /-- Pairs of a location and the mirror that stands in for it. -/
  mirrors : SortedMap String String

namespace GraphFile

def ofJson? (j : Json) : Option GraphFile := do
  let fs ← j.fields? .file
    ["manifests", "root-dependencies", "binary-artifacts", "prebuilts", "mirrors"]
  let mirrors ← fs.getD? "mirrors" [] (Json.table? Json.text?)
  some
    { manifests := ← fs.getD? "manifests" [] (Json.list? (Manifest.ofJson? .file))
      rootDependencies :=
        ← fs.getD? "root-dependencies" [] (Json.list? (Dependency.ofJson? .file))
      artifacts := ← fs.getD? "binary-artifacts" KeyedSet.empty (Artifacts.ofJson? .file)
      prebuilts := ← fs.getD? "prebuilts" KeyedSet.empty (Prebuilts.ofJson? .file)
      mirrors := KeyedSet.ofList mirrors }

def hasRoot (f : GraphFile) : Bool := f.manifests.any (·.isRoot)

/-- What a graph is made from, with the given files and options. -/
def source (f : GraphFile) (files : FileView) (options : Options) : Source where
  manifests := f.manifests
  mirrors := Mirrors.ofPairs f.mirrors.toList
  rootDependencies := f.rootDependencies
  artifacts := f.artifacts
  prebuilts := f.prebuilts
  files := files
  similarity := Similarity.byEdits
  options := options

end GraphFile

end ModuleGraph
