import ControlPlane.Proofs.Compile.Clusters

/-! Every cluster that an API compiles to has addresses, and no address twice. -/

namespace ControlPlane.Compile

/-- The address of a backend. -/
def addressOf (endpoint : Endpoint) : Address := ⟨endpoint.host, endpoint.port⟩

/-- The addresses of backends stand at their first places. -/
theorem addresses_eq (endpoints : List Endpoint) :
    addresses endpoints = (endpoints.map addressOf).eraseDups := by
  -- They are noted one backend after the other.
  rw [← Keyed.foldl_note, List.foldl_map]
  rfl

/-- A cluster that is made has the addresses of its backends. -/
theorem endpoints_of_clusterOf {options : CompileOptions} {name : String}
    {endpoints : List Endpoint} {cluster : Cluster}
    (made : clusterOf options name endpoints = .ok cluster) :
    cluster.endpoints = (endpoints.map addressOf).eraseDups := by
  rw [← addresses_eq]
  -- Only backends that agree on TLS make a cluster.
  unfold clusterOf at made
  dsimp only at made
  split at made
  · cases made
  · cases made; rfl

/-- A pool is only made of some backends. -/
theorem ne_nil_of_poolSource {api : Descriptor} {entry : Templated} {environment : Environment}
    {name : String} {endpoints : List Endpoint}
    (source : poolSource api entry environment = some (name, endpoints)) : endpoints ≠ [] := by
  -- There are two lists to choose from, and either is chosen only if it is not empty.
  unfold poolSource at source
  dsimp only at source
  split at source
  · -- The resource has backends of its own.
    rename_i own
    cases source
    simpa using own
  · split at source
    · -- It uses those of the API.
      rename_i shared
      cases source
      simpa using shared
    · -- Without any there is no pool.
      cases source

/-- Every cluster of a compiled API has addresses, each of them once. -/
theorem endpoints_of_mem_clusters {options : CompileOptions} {api : Descriptor}
    {compiled : Compiled} (success : compile options api = .ok compiled) {cluster : Cluster}
    (member : cluster ∈ compiled.clusters) :
    cluster.endpoints ≠ [] ∧ cluster.endpoints.Nodup := by
  obtain ⟨entry, -, environment, pool, rfl, source, made⟩ :=
    source_of_mem_clusters success member
  rw [endpoints_of_clusterOf made]
  refine ⟨fun none => ?_, Keyed.nodup_eraseDups _⟩
  -- The first backend of the pool has an address.
  obtain ⟨endpoint, listed⟩ := List.exists_mem_of_ne_nil _ (ne_nil_of_poolSource source)
  have here : addressOf endpoint ∈ (pool.endpoints.map addressOf).eraseDups :=
    List.mem_eraseDups.mpr (List.mem_map_of_mem listed)
  rw [none] at here
  cases here

end ControlPlane.Compile
