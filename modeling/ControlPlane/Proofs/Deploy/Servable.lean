import ControlPlane.Proofs.Compile.Pools
import ControlPlane.Proofs.Deploy.Closure
import ControlPlane.Proofs.Wire.Cluster

/-! What the deployer publishes can be served: a proxy finds everything that its routes lead to. -/

namespace ControlPlane

/-- Whether a proxy can serve a set of resources: it has one listener with one route table, every
route leads to a cluster, and every cluster has a name and addresses of its own. -/
structure ResourceSet.Servable (set : ResourceSet) : Prop where
  entry : ∃ listener table, set.listeners = [listener] ∧ set.routeTables = [table] ∧
    listener.routeTable = table.name
  closed : set.Closed
  distinct : (set.clusters.map Cluster.name).Nodup
  served : ∀ cluster ∈ set.clusters, cluster.endpoints ≠ [] ∧ cluster.endpoints.Nodup
  assigned : set.assignments = set.clusters.map Cluster.assignment

namespace Registry

variable {compileOptions : CompileOptions} {registry : Registry}

/-- What a registry in good order gives a label with members can be served. -/
theorem servable_resources (filed : registry.Filed compileOptions) (listener : ListenerSettings)
    {label : Label} (populated : registry.members label ≠ []) :
    (registry.resources listener label).Servable where
  entry := by
    -- The listener and the table are made together, and only for a label that has members.
    unfold resources
    cases members : registry.members label with
    | nil => exact absurd members populated
    | cons first rest => exact ⟨_, _, rfl, rfl, rfl⟩
  closed := closed_resources filed listener label
  distinct := by
    -- The clusters of all members are put together from nothing.
    rw [clusters_resources]
    exact Keyed.nodup_keys_putAll _
  served := by
    intro cluster member
    rw [clusters_resources] at member
    -- Putting clusters together makes none, so the cluster is one of a member.
    obtain ⟨deployment, carries, compiled⟩ :=
      List.mem_flatMap.mp (Keyed.mem_of_mem_putAll member)
    obtain ⟨⟨id, found⟩, -⟩ := mem_members.mp carries
    exact Compile.endpoints_of_mem_clusters (filed found).2 compiled
  assigned := by
    unfold resources
    cases registry.members label <;> rfl

end Registry

namespace Wire

open Proto

/-- Whether a proxy with a set of resources finds the endpoints of a cluster: by discovery, if all
of them are addresses, and in the message of the cluster itself otherwise. -/
structure Located (set : ResourceSet) (c : Cluster) : Prop where
  byDiscovery : Message.fields (cluster c) 2 = numberAlways 2 Resolution.discovery.code ↔
    ∀ address ∈ c.endpoints, address.isIp = true
  assigned : (∀ address ∈ c.endpoints, address.isIp = true) →
    Message.fields (cluster c) 3 = message 3 (message 1 streamSource) ∧
    Message.fields (cluster c) 33 = [] ∧ c.assignment ∈ set.assignments ∧
    ∀ names, names = [] ∨ c.name ∈ names →
      (assignment c.assignment).encode ∈ encode .endpoint names set
  inline : (¬ ∀ address ∈ c.endpoints, address.isIp = true) →
    Message.fields (cluster c) 3 = [] ∧
    Message.fields (cluster c) 33 = message 33 (assignment c.assignment) ∧
    Message.fields (cluster c) 2 = numberAlways 2
      (if c.endpoints.length = 1 then Resolution.logicalDns else .strictDns).code

/-- An assignment of a set reaches every subscriber that asks for it, or for all. -/
theorem mem_encode_endpoint {set : ResourceSet} {a : Assignment} (member : a ∈ set.assignments)
    {names : List String} (asked : names = [] ∨ a.cluster ∈ names) :
    (assignment a).encode ∈ encode .endpoint names set := by
  -- It passes the filter, and is encoded like all that do.
  refine List.mem_map_of_mem (List.mem_map_of_mem (List.mem_filter.mpr ⟨member, ?_⟩))
  rcases asked with rfl | named
  · simp [wanted]
  · simp [wanted, named]

/-- A proxy that can serve a set of resources finds the endpoints of all clusters. -/
theorem located_of_servable {set : ResourceSet} (servable : set.Servable) {c : Cluster}
    (member : c ∈ set.clusters) : Located set c := by
  obtain ⟨type, source, load⟩ := fields_cluster c
  have some := (servable.served c member).1
  have discovered := resolution_eq_discovery_iff some
  refine ⟨?_, fun addresses => ?_, fun named => ?_⟩
  · -- The numbers tell the ways of resolution apart.
    rw [type, ← discovered]
    cases resolution c <;> simp [numberAlways, Resolution.code]
  · -- The cluster says where to ask, and what is asked for is there.
    rw [source, load, if_pos (discovered.mpr addresses), if_pos (discovered.mpr addresses)]
    have assigned : c.assignment ∈ set.assignments :=
      servable.assigned ▸ List.mem_map_of_mem member
    exact ⟨rfl, rfl, assigned, fun names asked => mem_encode_endpoint assigned asked⟩
  · -- The cluster brings the endpoints itself.
    have resolved := resolution_of_name some named
    have apart : resolution c ≠ .discovery := fun also => named (discovered.mp also)
    rw [source, load, if_neg apart, if_neg apart, type, resolved]
    exact ⟨rfl, rfl, rfl⟩

end Wire

namespace Deployer

/-- After any commands, from the first on, the proxies of a label that some deployed API carries can
serve its snapshot, and find the endpoints of every cluster; the snapshot of any other label has
nothing. -/
theorem servable_run (compileOptions : CompileOptions) (listener : ListenerSettings)
    (maxExtracted : Nat) (commands : List Command) (label : Label) :
    let deployer := (new compileOptions listener maxExtracted).run commands
    let resources := (deployer.cache.current label).resources
    ((∃ id deployment, deployer.registry.get? id = some deployment ∧
        label ∈ deployment.api.labels) →
      resources.Servable ∧ ∀ cluster ∈ resources.clusters, Wire.Located resources cluster) ∧
    ((¬ ∃ id deployment, deployer.registry.get? id = some deployment ∧
        label ∈ deployment.api.labels) →
      resources = .empty) := by
  intro deployer resources
  have here : resources = deployer.registry.resources listener label :=
    resources_run compileOptions listener maxExtracted commands label
  have filed := filed_run compileOptions listener maxExtracted commands
  refine ⟨?_, ?_⟩
  · rintro ⟨id, deployment, found, carries⟩
    -- The API that carries the label is one of its members.
    have member : deployment ∈ deployer.registry.members label :=
      Registry.mem_members.mpr ⟨⟨id, found⟩, carries⟩
    have servable : resources.Servable :=
      here ▸ Registry.servable_resources filed listener (List.ne_nil_of_mem member)
    exact ⟨servable, fun cluster among => Wire.located_of_servable servable among⟩
  · intro none
    rw [here]
    refine Registry.resources_of_members_nil listener ?_
    -- A member would be such an API.
    refine List.eq_nil_iff_forall_not_mem.mpr fun deployment member => none ?_
    obtain ⟨⟨id, found⟩, carries⟩ := Registry.mem_members.mp member
    exact ⟨id, deployment, found, carries⟩

end Deployer

end ControlPlane
