import ModuleGraph.Graph.Catalog
import ModuleGraph.Manifest.EnabledTraits
import ModuleGraph.Manifest.Requirements

/-! # Traits across the graph

Every package has a record of the traits that are requested of it.  The roots are asked by the
selection in the options; from there requests travel along dependencies.  A package is expanded
once, when it is first reached, but every dependency that reaches it adds to its record.  A record
without explicit requests asks for the defaults, and explicit requests take their place. -/

namespace ModuleGraph

/-- A dependency to follow: the package it leads to, and the traits it asks for explicitly. -/
abbrev TraitEdge := Identity × Option Names

/-- The record that asks for the defaults alone. -/
def defaultRequest : Names := KeyedSet.ofList [defaultTrait]

/-- A record after one more request. -/
def mergeRequest (record request : Option Names) : Names :=
  match record, request with
  | none, some names => names
  | none, none => defaultRequest
  -- A record with the defaults alone counts as one without explicit requests.
  | some old, some names => if old = defaultRequest then names else old.union names
  | some old, none => old

/-- Records, enabled traits, and the packages that have been expanded. -/
structure TraitWalk where
  requested : SortedMap Identity Names
  enabled : EnabledTraits
  expanded : List Identity

namespace TraitWalk

/-- Nothing requested. -/
def start : TraitWalk := ⟨KeyedSet.empty, KeyedSet.empty, []⟩

/-- The first edge to each package. -/
def firstEdges (seen : List Identity) : List TraitEdge → List TraitEdge
  | [] => []
  | edge :: rest =>
    if seen.contains edge.1 then firstEdges seen rest
    else edge :: firstEdges (edge.1 :: seen) rest

/-- The dependencies of a package that its traits require, one to each package. -/
def edgesOf (identify : Origin → Identity) (w : TraitWalk) (id : Identity) (m : Manifest)
    (filter : ProductFilter) : List TraitEdge :=
  let traits := w.enabled.of id
  let dependencies :=
    (m.requiredDependencies identify filter traits).map (·.1) ++
      m.guardedDependencies identify traits
  firstEdges [] (dependencies.map fun d => (identify d.origin, d.requestedTraits traits))

/-- Asks a root for the selected traits. -/
def askRoot (c : Catalog) (selection : TraitSelection) (w : TraitWalk) (id : Identity) :
    Except TraitError TraitWalk :=
  match c.manifest? id with
  | none => .ok w
  | some m => do
    let request := m.selectedTraits selection
    let enabled ← m.enabledTraits request
    pure
      { requested := SortedMap.put w.requested id request
        enabled := SortedMap.put w.enabled id enabled
        expanded := id :: w.expanded }

/-- Adds a request to the record of a package. -/
def record (w : TraitWalk) (id : Identity) (request : Option Names) : TraitWalk :=
  let merged := mergeRequest (SortedMap.get? w.requested id) request
  { w with requested := SortedMap.put w.requested id merged }

/-- The record of a package. -/
def requestOf (w : TraitWalk) (id : Identity) : Names :=
  SortedMap.getD w.requested id KeyedSet.empty

/-- Follows the next edge; the edges of a package that is reached first come before the others. -/
def follow (mirrors : Mirrors) (c : Catalog) (s : TraitWalk × List TraitEdge) :
    Step (TraitWalk × List TraitEdge) (Except TraitError TraitWalk) :=
  match s with
  | (w, []) => .done (.ok w)
  | (w, (id, request) :: rest) =>
    let w := w.record id request
    match c.manifest? id with
    | none => .next (w, rest)
    | some m =>
      -- The record has grown, so the traits are worked out anew, also for an expanded package.
      match m.enabledTraits (w.requestOf id) with
      | .error e => .done (.error e)
      | .ok enabled =>
        let w := { w with enabled := SortedMap.put w.enabled id enabled }
        if w.expanded.contains id then .next (w, rest)
        else
          let w := { w with expanded := id :: w.expanded }
          -- Roots count as expanded from the beginning, so this package is no root.
          .next (w, w.edgesOf mirrors.identify id m .everything ++ rest)

/-- A bound on the edges that a walk follows. -/
def walkBound (c : Catalog) (edges : List TraitEdge) : Nat :=
  edges.length + 2 * (c.manifests.toList.flatMap fun (_, m) => m.dependencies).length + 1

/-- Follows edges and everything they lead to. -/
def walk (mirrors : Mirrors) (c : Catalog) (w : TraitWalk) (edges : List TraitEdge) :
    Except TraitError TraitWalk :=
  (Loop.run (follow mirrors c) (walkBound c edges) (w, edges)).getD (.ok w)

/-- Follows the dependencies of a root. -/
def walkRoot (mirrors : Mirrors) (c : Catalog) (filter : ProductFilter) (w : TraitWalk)
    (id : Identity) : Except TraitError TraitWalk :=
  match c.manifest? id with
  | none => .ok w
  | some m => walk mirrors c w (w.edgesOf mirrors.identify id m filter)

end TraitWalk

/-- The final records and enabled traits of everything that roots and extra dependencies lead
to. -/
def Catalog.walkTraits (c : Catalog) (mirrors : Mirrors) (extra : List Dependency)
    (selection : TraitSelection) (filter : ProductFilter) : Except TraitError TraitWalk := do
  let asked ← c.roots.foldlM (TraitWalk.askRoot c selection) TraitWalk.start
  let walked ← c.roots.foldlM (TraitWalk.walkRoot mirrors c filter) asked
  TraitWalk.walk mirrors c walked
    (extra.map fun d => (mirrors.identify d.origin, d.requestedTraits KeyedSet.empty))

/-- The enabled traits of every package that is reached. -/
def Catalog.enabledTraits (c : Catalog) (mirrors : Mirrors) (extra : List Dependency)
    (selection : TraitSelection) (filter : ProductFilter) : Except TraitError EnabledTraits :=
  (c.walkTraits mirrors extra selection filter).map (·.enabled)

end ModuleGraph
