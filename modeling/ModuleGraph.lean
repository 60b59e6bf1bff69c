import ModuleGraph.Disk
import ModuleGraph.Graph.Encode
import ModuleGraph.Main
import ModuleGraph.Proofs.DeclaredContent
import ModuleGraph.Proofs.Encoding
import ModuleGraph.Proofs.EnvironmentQueries
import ModuleGraph.Proofs.ManifestOrder
import ModuleGraph.Proofs.PassedReferences
import ModuleGraph.Proofs.ProductEdges
import ModuleGraph.Proofs.RequiredPackages
import ModuleGraph.Proofs.TestProducts
import ModuleGraph.Proofs.TraitCoverage
import ModuleGraph.Proofs.Traits.Implications
import ModuleGraph.Proofs.Traits.Resolution
import ModuleGraph.Proofs.UniqueIds
import ModuleGraph.Proofs.Aliases
import ModuleGraph.Proofs.Digraph.Recursion
import ModuleGraph.Proofs.Requirements.Exact
import ModuleGraph.Proofs.Requirements.Growth
import ModuleGraph.Proofs.Requirements.Guarded
import ModuleGraph.Proofs.RequiredModules.Exact
import ModuleGraph.Proofs.Discovery.Termination
import ModuleGraph.Proofs.ConflictChains
import ModuleGraph.Proofs.TestListing
import ModuleGraph.Proofs.PlatformOrder
import ModuleGraph.Proofs.PlatformOverrides
import ModuleGraph.Proofs.Lowercase
import ModuleGraph.Proofs.CanonicalLocation
import ModuleGraph.Proofs.LocationName
import ModuleGraph.Proofs.SetHistory
import ModuleGraph.Proofs.FileTree
import ModuleGraph.Proofs.TransitiveDependencies
import ModuleGraph.Proofs.PackageOrder
import ModuleGraph.Proofs.TreeDrawing
import ModuleGraph.Proofs.ConfigLayers
import ModuleGraph.Proofs.EditDistance
import ModuleGraph.Proofs.Suggestions
import ModuleGraph.Proofs.UnusedDependencies
