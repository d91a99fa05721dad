import ControlPlane.Compile.Basic
import ControlPlane.Discovery.Snapshot
import ControlPlane.Gateway.Aggregate

/-! The registry of deployed APIs, and what it has each label's proxies configured with. -/

namespace ControlPlane

/-- A deployed API and what it compiled to. -/
structure Deployment where
  api : Descriptor
  compiled : Compiled

/-- The deployed APIs by their identities. -/
abbrev Registry := OrderedMap ApiId Deployment

namespace Registry

/-- The deployments that carry a label, in the order of their identities. -/
def members (registry : Registry) (label : Label) : List Deployment :=
  registry.values.filter fun deployment => label ∈ deployment.api.labels

/-- The clusters of some deployments; of clusters with one name, the last counts, in the first's
place. -/
def mergedClusters (members : List Deployment) : List Cluster :=
  (members.flatMap fun deployment => deployment.compiled.clusters).foldl
    (fun clusters cluster => Compile.addCluster cluster clusters) []

/-- The resources of a label: nothing without members, or else one listener with all routes. -/
def resources (listener : ListenerSettings) (registry : Registry) (label : Label) : ResourceSet :=
  match registry.members label with
  | [] => .empty
  | members =>
    let (listener, table) :=
      aggregate listener (members.flatMap fun deployment => deployment.compiled.routes)
    let clusters := mergedClusters members
    { listeners := [listener], routeTables := [table], clusters
      assignments := clusters.map Cluster.assignment }

/-- The owners of resource names: for each beginning of names, the API whose names begin so. -/
abbrev Owners := OrderedMap String ApiId

/-- The owners of the names of the deployed APIs. -/
def owners (registry : Registry) : Owners :=
  .ofList (registry.keys.map fun id => (Naming.apiKey id, id))

end Registry

end ControlPlane
