import ControlPlane.Proofs.Compile.Clusters
import ControlPlane.Proofs.Deploy.Deployer

/-! What the deployer publishes is closed: no route leads to a cluster that is not there. -/

namespace ControlPlane

/-- Whether every route of a set of resources leads to a cluster of the set. -/
def ResourceSet.Closed (set : ResourceSet) : Prop :=
  ∀ table ∈ set.routeTables, ∀ route ∈ table.host.routes,
    ∃ cluster ∈ set.clusters, cluster.name = route.cluster

/-- No resources are closed, since there is no route. -/
theorem ResourceSet.closed_empty : ResourceSet.empty.Closed := by
  intro table member
  cases member

/-- What a registry in good order gives a label is closed. -/
theorem Registry.closed_resources {compileOptions : CompileOptions} {registry : Registry}
    (filed : registry.Filed compileOptions) (listener : ListenerSettings) (label : Label) :
    (registry.resources listener label).Closed := by
  intro table tabled route listed
  -- The route is one that a member compiled to, together with a cluster for it.
  have among : route ∈ (registry.members label).flatMap fun d => d.compiled.routes := by
    rw [← registry.routes_resources listener label]
    exact List.mem_flatMap.mpr ⟨table, tabled, listed⟩
  obtain ⟨deployment, member, own⟩ := List.mem_flatMap.mp among
  obtain ⟨⟨id, found⟩, _⟩ := Registry.mem_members.mp member
  obtain ⟨cluster, inside, named⟩ :=
    List.mem_map.mp (Compile.mem_names_of_route (filed found).2 own)
  -- Putting the clusters of all members together loses no name.
  have kept : route.cluster ∈ (registry.resources listener label).clusters.map Cluster.name := by
    rw [clusters_resources, Keyed.mem_keys_putAll]
    exact List.mem_map.mpr ⟨cluster, List.mem_flatMap.mpr ⟨deployment, member, inside⟩, named⟩
  -- The name is that of some cluster that is kept.
  exact List.mem_map.mp kept

/-- A command leaves the resources of a label closed, if they were. -/
theorem Deployer.Changed.closed {deployer next : Deployer} (changed : deployer.Changed next)
    (filed : deployer.registry.Filed deployer.compileOptions) {label : Label}
    (closed : (deployer.cache.current label).resources.Closed) :
    (next.cache.current label).resources.Closed := by
  -- What is not published anew stays as it was.
  rcases changed.resources label with same | rebuilt
  · rw [same]
    exact closed
  · rw [rebuilt]
    exact Registry.closed_resources (changed.filed filed) next.listener label

end ControlPlane
