import ControlPlane.Proofs.Compile.Effective
import ControlPlane.Proofs.Compile.Pools

/-! The backends that the requests of an operation reach: its route leads to the one cluster that is
made of them, and there are no clusters but those of the operations. -/

namespace ControlPlane

/-- What holds in both environments can be tested. -/
instance {test : Environment → Prop} [DecidablePred test] : Decidable (∀ place, test place) :=
  decidable_of_iff (test .production ∧ test .sandbox)
    ⟨fun ⟨production, sandbox⟩ place => by cases place <;> assumption,
      fun both => ⟨both _, both _⟩⟩

namespace Descriptor

/-- The backends of an operation in an environment: its own, or else those of the whole API. -/
def backends (api : Descriptor) (resource : Resource) (environment : Environment) :
    List Endpoint :=
  if resource.endpoints environment = [] then api.endpoints environment
  else resource.endpoints environment

/-- The backends that the requests of an operation reach: those of production, or else those of the
sandbox. -/
def reached (api : Descriptor) (resource : Resource) : List Endpoint :=
  if api.backends resource .production = [] then api.backends resource .sandbox
  else api.backends resource .production

/-- Whether hashes tell the templates apart of operations that count, have one verb, and have
backends of their own in one environment. -/
def OverridesApart (api : Descriptor) : Prop :=
  ∀ a ∈ Compile.effective api, ∀ b ∈ Compile.effective api,
    a.resource.method = b.resource.method → ∀ environment,
    a.resource.endpoints environment ≠ [] → b.resource.endpoints environment ≠ [] →
    Naming.shortHash a.template = Naming.shortHash b.template → a.template = b.template

instance (api : Descriptor) : Decidable api.OverridesApart := by
  unfold OverridesApart
  infer_instance

end Descriptor

namespace Compile

variable {options : CompileOptions} {api : Descriptor} {compiled : Compiled}

/-- The name for the backends of an operation in an environment. -/
def poolName (api : Descriptor) (entry : Templated) (environment : Environment) : String :=
  if entry.resource.endpoints environment = [] then Naming.cluster api.id environment
  else Naming.overrideCluster api.id environment entry.resource.method entry.template

/-- An operation has a pool wherever it has backends. -/
theorem poolSource_eq (api : Descriptor) (entry : Templated) (environment : Environment) :
    poolSource api entry environment =
      if api.backends entry.resource environment = [] then none
      else some (poolName api entry environment, api.backends entry.resource environment) := by
  unfold poolSource poolName Descriptor.backends
  -- It has backends of its own, or the API has some, or there are none.
  by_cases own : entry.resource.endpoints environment = [] <;>
  by_cases shared : api.endpoints environment = [] <;>
  simp [own, shared]

/-- The names of the pools of an operation, that of production first. -/
def poolNames (api : Descriptor) (entry : Templated) : List String :=
  ([Environment.production, .sandbox].filter fun environment =>
    api.backends entry.resource environment ≠ []).map (poolName api entry)

/-- The pools of an operation have these names. -/
theorem map_fst_poolSource (api : Descriptor) (entry : Templated) :
    ([Environment.production, .sandbox].filterMap (poolSource api entry)).map Prod.fst =
      poolNames api entry := by
  unfold poolNames
  -- In each environment there is a pool or none.
  by_cases production : api.backends entry.resource .production = [] <;>
  by_cases sandbox : api.backends entry.resource .sandbox = [] <;>
  simp [poolSource_eq, production, sandbox]

/-- Whether a cluster is made of some backends: it has their addresses, each at its first place; it
speaks TLS just as all of them do; and then it asks for the first of their hosts that is a name. -/
structure MadeOf (options : CompileOptions) (cluster : Cluster) (backends : List Endpoint) :
    Prop where
  endpoints : cluster.endpoints = (backends.map addressOf).eraseDups
  tls : ∀ backend ∈ backends, backend.tls = cluster.tls
  sni : cluster.sni =
    if cluster.tls then
      (backends.find? fun backend => !Net.isAddress backend.host).map Endpoint.host
    else none
  connectTimeout : cluster.connectTimeout = options.connectTimeout

/-- A cluster is made of the backends that it is made for. -/
theorem madeOf_clusterOf {name : String} {endpoints : List Endpoint} {cluster : Cluster}
    (made : clusterOf options name endpoints = .ok cluster) : MadeOf options cluster endpoints := by
  -- The addresses are known from what makes clusters, and the other parts are read off here.
  have listed := endpoints_of_clusterOf made
  -- Only backends that agree on TLS make a cluster.
  unfold clusterOf at made
  dsimp only at made
  split at made
  · cases made
  · rename_i agree
    cases made
    refine ⟨listed, fun backend member => ?_, ?_, rfl⟩
    · -- A backend that differs from the first one is not accepted.
      have same := (List.any_eq_false.mp (Bool.eq_false_iff.mpr agree)) backend member
      simpa using same
    · -- Leaving out repeated addresses does not change which name comes first.
      rw [addresses_eq, Keyed.find?_eraseDups, List.find?_map, Option.map_map]
      rfl

/-- A cluster is known by its name and the backends that it is made of. -/
theorem MadeOf.eq {cluster other : Cluster} {backends : List Endpoint}
    (made : MadeOf options cluster backends) (made' : MadeOf options other backends)
    (some : backends ≠ []) (names : cluster.name = other.name) : cluster = other := by
  -- There is a backend, and its TLS decides that of both clusters.
  obtain ⟨backend, member⟩ := List.exists_mem_of_ne_nil _ some
  have tls : cluster.tls = other.tls := (made.tls backend member).symm.trans (made'.tls _ member)
  have endpoints := made.endpoints.trans made'.endpoints.symm
  -- With the same TLS both ask for the first name among the same backends.
  have sni := made.sni
  rw [tls, ← made'.sni] at sni
  have timeouts := made.connectTimeout.trans made'.connectTimeout.symm
  cases cluster
  cases other
  simp_all

/-- Where hashes tell operations apart, pools with one name have the same backends. -/
theorem backends_of_poolName (apart : api.OverridesApart) {entry entry' : Templated}
    (counts : entry ∈ effective api) (counts' : entry' ∈ effective api)
    {environment environment' : Environment}
    (same : poolName api entry environment = poolName api entry' environment') :
    api.backends entry.resource environment = api.backends entry'.resource environment' := by
  unfold poolName at same
  unfold Descriptor.backends
  by_cases own : entry.resource.endpoints environment = [] <;>
  by_cases own' : entry'.resource.endpoints environment' = []
  · -- Both use the backends of the whole API, in the same environment.
    rw [if_pos own, if_pos own'] at same
    rw [if_pos own, if_pos own', (Naming.cluster_eq_cluster_iff.mp same).1]
  · -- One operation has its own and the other has those of the API, whose name cannot end like an
    -- operation's.
    rw [if_pos own, if_neg own'] at same
    exact absurd (Naming.cluster_eq_overrideCluster_iff.mp same).2
      (Naming.ne_append_operation _ _ _)
  · rw [if_neg own, if_pos own'] at same
    exact absurd (Naming.cluster_eq_overrideCluster_iff.mp same.symm).2
      (Naming.ne_append_operation _ _ _)
  · -- Both have their own, and environment, verb and hash agree, so they are one operation.
    rw [if_neg own, if_neg own'] at same
    obtain ⟨rfl, _, methods, hashes⟩ := Naming.eq_of_overrideCluster same
    have templates := apart entry counts entry' counts' methods environment own own' hashes
    have one : entry = entry' := List.inj_on_of_nodup_map (nodup_requests api) counts counts'
      (Prod.ext templates methods)
    rw [one]

/-- A pool that is made of the backends in some environment has their name there. -/
theorem Sources.pool {entry : Templated} {environment : Environment} {pool : Pool}
    (sources : Sources options api entry environment pool) :
    pool.cluster.name = poolName api entry environment ∧
      pool.endpoints = api.backends entry.resource environment ∧
      api.backends entry.resource environment ≠ [] := by
  -- What is found for the operation there is its name with its backends, unless it has none.
  have source := sources.1
  rw [poolSource_eq] at source
  split at source
  · cases source
  · rename_i some
    obtain ⟨names, endpoints⟩ := Prod.mk.inj (Option.some.inj source)
    exact ⟨names.symm, endpoints.symm, some⟩

/-- Where hashes tell operations apart, pools with one name have the same cluster. -/
theorem Sources.cluster_eq (apart : api.OverridesApart) {entry entry' : Templated}
    (counts : entry ∈ effective api) (counts' : entry' ∈ effective api)
    {environment environment' : Environment} {pool pool' : Pool}
    (sources : Sources options api entry environment pool)
    (sources' : Sources options api entry' environment' pool')
    (same : pool.cluster.name = pool'.cluster.name) : pool.cluster = pool'.cluster := by
  -- Equal names of clusters are equal names for the backends, and these stand for the same
  -- backends.
  obtain ⟨names, endpoints, _⟩ := sources.pool
  obtain ⟨names', endpoints', _⟩ := sources'.pool
  have backends := backends_of_poolName apart counts counts'
    (names.symm.trans (same.trans names'))
  -- Both clusters are made alike, for the same name and of the same backends.
  have made := sources.2
  rw [same, endpoints, backends, ← endpoints', sources'.2] at made
  exact (Except.ok.inj made).symm

/-- An operation that has backends in an environment has a pool of them. -/
theorem exists_sources (success : compile options api = .ok compiled) {entry : Templated}
    (counts : entry ∈ effective api) {environment : Environment}
    (some : api.backends entry.resource environment ≠ []) :
    ∃ pool, Sources options api entry environment pool := by
  -- Each operation compiles to its pools, and none is left out where there are backends.
  obtain ⟨parts, done, _, _⟩ := compile_eq_ok success
  obtain ⟨part, _, resolved⟩ := result_of_mapM done counts
  have found : poolSource api entry environment =
      .some (poolName api entry environment, api.backends entry.resource environment) := by
    rw [poolSource_eq, if_neg some]
  obtain ⟨pool, _, _, sources⟩ := (resolves_resourceOf resolved).complete found
  exact ⟨pool, sources⟩

/-- Where hashes tell operations apart, every pool that is made has its cluster among those left. -/
theorem mem_clusters_of_sources (success : compile options api = .ok compiled)
    (apart : api.OverridesApart) {entry : Templated} (counts : entry ∈ effective api)
    {environment : Environment} {pool : Pool}
    (sources : Sources options api entry environment pool) : pool.cluster ∈ compiled.clusters := by
  -- The name is that of some cluster, which is made of the same backends.
  have named := mem_names_of_source success counts sources.1
  obtain ⟨cluster, among, same⟩ := List.mem_map.mp named
  obtain ⟨entry', counts', environment', pool', rfl, sources'⟩ :=
    source_of_mem_clusters success among
  exact Sources.cluster_eq apart counts' counts sources' sources same ▸ among

/-- The clusters have the names of the pools of all operations, each where it comes first. -/
theorem names_clusters (success : compile options api = .ok compiled) :
    compiled.clusters.map Cluster.name =
      ((effective api).flatMap (poolNames api)).eraseDups := by
  -- Of the clusters that are put by their names, the names are those of all pools without
  -- repetition.
  obtain ⟨parts, done, -, clusters⟩ := compile_eq_ok success
  rw [clusters, Keyed.map_putAll]
  congr 1
  have pairs := forall₂_of_mapM done
  generalize effective api = entries at pairs ⊢
  clear done clusters
  -- The induction is on the operations, each of which brings the names of its pools.
  induction pairs with
  | nil => rfl
  | @cons entry part _ _ resolved _ ih =>
    have names : (part.2.map Pool.cluster).map Cluster.name = poolNames api entry := by
      rw [← map_fst_poolSource, ← (resolves_resourceOf resolved).sources]
      simp [Pool.source]
    rw [List.flatMap_cons, List.flatMap_cons, List.map_append, List.map_append, names, ih]

/-- A route leads to the first pool of its operation, which has the backends that are reached. -/
theorem Resolves.reaches {entry : Templated} {route : Route} {pools : List Pool}
    (resolves : Resolves options api entry route pools) :
    ∃ environment pool, Sources options api entry environment pool ∧
      pool.endpoints = api.reached entry.resource ∧ route = routeOf options api entry pool := by
  -- The target of the route is the first pool, which is made of the backends in some environment.
  obtain ⟨pool, first, target⟩ := resolves.target
  obtain ⟨environment, sources⟩ := resolves.sourced (List.mem_of_head? first)
  refine ⟨environment, pool, sources, ?_, target⟩
  -- The first pool is that of production, unless there are no backends.
  have source : ([Environment.production, .sandbox].filterMap (poolSource api entry)).head? =
      some pool.source := by
    rw [← resolves.sources, List.head?_map, first, Option.map_some]
  unfold Descriptor.reached
  -- With or without backends in either environment, the first pool is that of the first that has
  -- some.
  by_cases production : api.backends entry.resource .production = [] <;>
  by_cases sandbox : api.backends entry.resource .sandbox = [] <;>
  simp_all [poolSource_eq, Pool.source]

/-- Whether a route is that of an operation, and leads to the one cluster that is made of the
backends which the operation's requests are to reach. -/
def Reaches (options : CompileOptions) (api : Descriptor) (clusters : List Cluster)
    (entry : Templated) (route : Route) : Prop :=
  route.pathTemplate = entry.template ∧ route.method = entry.resource.method ∧
    ∃ first others cluster, api.reached entry.resource = first :: others ∧
      clusters.filter (·.name = route.cluster) = [cluster] ∧
      MadeOf options cluster (first :: others) ∧ route.backendHost = some first.host

/-- A route to a pool of the backends that are to be reached leads to the one cluster that is made of
them. -/
theorem reaches_routeOf (success : compile options api = .ok compiled)
    (apart : api.OverridesApart) {entry : Templated} (counts : entry ∈ effective api)
    {environment : Environment} {pool : Pool}
    (sources : Sources options api entry environment pool)
    (reached : pool.endpoints = api.reached entry.resource) {route : Route}
    (target : route = routeOf options api entry pool) :
    Reaches options api compiled.clusters entry route := by
  -- A pool has backends, so there is a first one, which gives the route its host.
  obtain ⟨_, endpoints, some⟩ := sources.pool
  rw [← endpoints, reached] at some
  obtain ⟨first, others, listed⟩ := List.exists_cons_of_ne_nil some
  have among := mem_clusters_of_sources success apart counts sources
  refine ⟨by rw [target]; rfl, by rw [target]; rfl, first, others, pool.cluster, listed, ?_, ?_, ?_⟩
  · -- No other cluster has the name that the route leads to.
    rw [target]
    exact Keyed.filter_of_mem (nodup_names_clusters success) among
  · rw [← listed, ← reached]
    exact madeOf_clusterOf sources.2
  · rw [target]
    simp [routeOf, reached, listed]

/-- Where hashes tell apart the templates of operations with one verb and backends of their own in
one environment, the route of every operation leads to the cluster of the backends that it is to
reach. The clusters are those of the operations' backends in both environments, one for each name
where it comes first, and the endpoints are listed likewise. -/
theorem routes_reach_own_backends (success : compile options api = .ok compiled)
    (apart : api.OverridesApart) :
    List.Forall₂ (Reaches options api compiled.clusters) (effective api) compiled.routes ∧
    (∀ cluster, cluster ∈ compiled.clusters ↔
      ∃ entry ∈ effective api, ∃ environment,
        api.backends entry.resource environment ≠ [] ∧
        cluster.name = poolName api entry environment ∧
        MadeOf options cluster (api.backends entry.resource environment)) ∧
    compiled.clusters.map Cluster.name =
      ((effective api).flatMap (poolNames api)).eraseDups ∧
    compiled.assignments =
      compiled.clusters.map fun cluster => ⟨cluster.name, cluster.endpoints⟩ := by
  refine ⟨?_, fun cluster => ⟨fun member => ?_, ?_⟩, names_clusters success, rfl⟩
  · obtain ⟨parts, done, routes, _⟩ := compile_eq_ok success
    rw [routes, List.forall₂_map_right_iff]
    -- Each operation counts, and it compiles to the route at its place.
    have pairs := (List.forall₂_and_left (effective api) parts).mpr
      ⟨fun entry counts => counts, forall₂_of_mapM done⟩
    refine pairs.imp fun entry part both => ?_
    obtain ⟨counts, resolved⟩ := both
    obtain ⟨environment, pool, sources, reached, target⟩ := (resolves_resourceOf resolved).reaches
    exact reaches_routeOf success apart counts sources reached target
  · -- A cluster belongs to a pool of an operation, and is made of the pool's backends.
    obtain ⟨entry, counts, environment, pool, rfl, sources⟩ := source_of_mem_clusters success member
    obtain ⟨names, endpoints, some⟩ := sources.pool
    exact ⟨entry, counts, environment, some, names, endpoints ▸ madeOf_clusterOf sources.2⟩
  · rintro ⟨entry, counts, environment, some, names, made⟩
    -- The operation has a pool of these backends, and its cluster is this one.
    obtain ⟨pool, sources⟩ := exists_sources success counts some
    obtain ⟨names', endpoints, _⟩ := sources.pool
    have made' : MadeOf options pool.cluster (api.backends entry.resource environment) :=
      endpoints ▸ madeOf_clusterOf sources.2
    have same : pool.cluster = cluster := made'.eq made some (names'.trans names.symm)
    exact same ▸ mem_clusters_of_sources success apart counts sources

end Compile

/-- An API that serves names and addresses behind TLS, and has two operations with backends of their
own, of which one is declared twice. -/
def Descriptor.shelter : Descriptor :=
  let own (host : String) : Endpoint := ⟨.production, "http://" ++ host, "http", host, 80, "", false⟩
  { name := "shelter", version := "v2", basePath := "/shelter"
    resources := [
      { path := "/cats", method := .get, operationId := none, summary := none
        production := [own "lost"], sandbox := [] },
      { path := "/dogs", method := .get, operationId := none, summary := none
        production := [own "dogs"], sandbox := [] },
      { path := "/shelter/cats", method := .get, operationId := none, summary := none
        production := [own "cats", own "cats"], sandbox := [] },
      { path := "/dogs", method := .post, operationId := none, summary := none
        production := [], sandbox := [] }]
    production := [
      ⟨.production, "https://10.0.0.1", "https", "10.0.0.1", 443, "", true⟩,
      ⟨.production, "https://pets.example", "https", "pets.example", 443, "", true⟩,
      ⟨.production, "https://10.0.0.1", "https", "10.0.0.1", 443, "", true⟩]
    sandbox := [⟨.sandbox, "http://trial", "http", "trial", 80, "", false⟩]
    labels := .default, requestTimeout := none, provider := none, extensions := .empty }

namespace Compile

/-- All operations of the shelter compile, and the one for everybody reaches the names and addresses
behind TLS. -/
theorem routes_reach_own_backends_shelter :
    ∃ compiled, compile {} .shelter = .ok compiled ∧ Descriptor.shelter.OverridesApart ∧
      List.Forall₂ (Reaches {} .shelter compiled.clusters) (effective .shelter) compiled.routes ∧
      (∃ cluster ∈ compiled.clusters, cluster.tls = true ∧ cluster.sni = some "pets.example" ∧
        cluster.endpoints = [⟨"10.0.0.1", 443⟩, ⟨"pets.example", 443⟩]) := by
  -- Whether the operations are apart is tested, and so is what compiling gives.
  have apart : Descriptor.shelter.OverridesApart := by decide +kernel
  have made : ((compile {} .shelter).toOption.bind fun compiled => compiled.clusters.find? fun
      cluster => cluster.tls && cluster.sni == some "pets.example" &&
        cluster.endpoints == [⟨"10.0.0.1", 443⟩, ⟨"pets.example", 443⟩]).isSome = true := by
    decide +kernel
  cases success : compile {} .shelter with
  | error fault => rw [success] at made; cases made
  | ok compiled =>
    rw [success] at made
    obtain ⟨cluster, found⟩ := Option.isSome_iff_exists.mp made
    have test := List.find?_some found
    simp only [Bool.and_eq_true, beq_iff_eq] at test
    obtain ⟨⟨tls, sni⟩, endpoints⟩ := test
    exact ⟨compiled, rfl, apart, (routes_reach_own_backends success apart).1, cluster,
      List.mem_of_find?_eq_some found, tls, sni, endpoints⟩

end Compile

end ControlPlane
