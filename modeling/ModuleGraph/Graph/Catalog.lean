import ModuleGraph.Manifest
import ModuleGraph.KeyedSet

/-! # Catalogs of manifests

The manifests that are at hand, by identity.  Of several manifests with one identity the first
counts, and the others are passed over. -/

namespace ModuleGraph

/-- Manifests by identity, and the root packages in order. -/
structure Catalog where
  manifests : SortedMap Identity Manifest
  roots : List Identity

namespace Catalog

/-- The manifest of a package. -/
def manifest? (c : Catalog) (id : Identity) : Option Manifest := SortedMap.get? c.manifests id

def isRoot (c : Catalog) (id : Identity) : Bool := c.roots.contains id

/-- Whether there is a manifest for the package. -/
def has (c : Catalog) (id : Identity) : Bool := c.manifests.contains id

/-- Adds a manifest, unless there is one with its identity. -/
def add (mirrors : Mirrors) (c : Catalog) (m : Manifest) : Catalog :=
  let id := mirrors.identify m.origin
  if c.has id then c
  else
    { manifests := c.manifests.insert (id, m)
      -- Only the first manifest of an identity is asked whether it is a root.
      roots := if m.isRoot then c.roots ++ [id] else c.roots }

/-- The catalog of a list of manifests. -/
def ofList (mirrors : Mirrors) (manifests : List Manifest) : Catalog :=
  manifests.foldl (add mirrors) ⟨KeyedSet.empty, []⟩

/-- The name of a package for people. -/
def displayName (c : Catalog) (id : Identity) : String :=
  match c.manifest? id with
  | some m => m.displayName
  | none => id.name

/-- The number of module dependencies that are declared. -/
def referenceCount (c : Catalog) : Nat :=
  (c.manifests.toList.flatMap fun (_, m) => m.modules.flatMap (·.dependencies)).length

end Catalog

end ModuleGraph
