import ControlPlane.Compile.Basic
import ControlPlane.Proofs.Keyed
import ControlPlane.Proofs.Sequence

/-! The clusters of a compiled API: one for each name, and for every route the one it leads to. -/

namespace ControlPlane

namespace Compile

/-- A cluster that is added is put by its name. -/
theorem addCluster_eq_put (cluster : Cluster) (clusters : List Cluster) :
    addCluster cluster clusters = Keyed.put Cluster.name cluster clusters := by
  -- Both go through the clusters until one has the name.
  induction clusters with
  | nil => rfl
  | cons first rest ih => rw [addCluster, Keyed.put, ih]

/-- Clusters that are added to none, one after the other, are put by their names. -/
theorem foldl_addCluster (clusters : List Cluster) :
    clusters.foldl (fun found cluster => addCluster cluster found) [] =
      Keyed.putAll Cluster.name clusters := by
  simp only [addCluster_eq_put, Keyed.putAll]

/-- A cluster that is made has the name it was to have. -/
theorem name_of_clusterOf {options : CompileOptions} {name : String} {endpoints : List Endpoint}
    {cluster : Cluster} (made : clusterOf options name endpoints = .ok cluster) :
    cluster.name = name := by
  -- Only backends that agree on TLS make a cluster.
  unfold clusterOf at made
  dsimp only at made
  split at made
  · cases made
  · cases made; rfl

/-- Whether a pool is made of the backends that a resource has in an environment. -/
def Sources (options : CompileOptions) (api : Descriptor) (entry : Templated)
    (environment : Environment) (pool : Pool) : Prop :=
  poolSource api entry environment = some (pool.cluster.name, pool.endpoints) ∧
    clusterOf options pool.cluster.name pool.endpoints = .ok pool.cluster

/-- A resource has a pool where it has backends, made of these. -/
theorem poolOf_cases {options : CompileOptions} {api : Descriptor} {entry : Templated}
    {environment : Environment} {found : Option Pool}
    (success : poolOf options api entry environment = .ok found) :
    (found = none ∧ poolSource api entry environment = none) ∨
      ∃ pool, found = some pool ∧ Sources options api entry environment pool := by
  -- The cases are those of the source: without one there is no pool, and with one there is a
  -- cluster or a fault.
  unfold poolOf at success
  split at success
  · rename_i absent
    cases success
    exact Or.inl ⟨rfl, absent⟩
  · rename_i name endpoints source
    -- The cluster that is made has the name under which the backends are found.
    obtain ⟨cluster, made, same⟩ := exists_of_map_eq_ok success
    have named := name_of_clusterOf made
    subst named
    exact Or.inr ⟨_, same.symm, source, made⟩

/-- The name and the backends of a pool. -/
def Pool.source (pool : Pool) : String × List Endpoint := (pool.cluster.name, pool.endpoints)

/-- What a resource compiles to: a pool for every environment where it has backends, that of
production first, and a route to the first of them. -/
structure Resolves (options : CompileOptions) (api : Descriptor) (entry : Templated)
    (route : Route) (pools : List Pool) : Prop where
  made : ∀ pool ∈ pools, clusterOf options pool.cluster.name pool.endpoints = .ok pool.cluster
  sources : pools.map Pool.source =
    [Environment.production, .sandbox].filterMap (poolSource api entry)
  target : ∃ pool, pools.head? = some pool ∧ route = routeOf options api entry pool

/-- Every resource that compiles does so to such a route and such pools. -/
theorem resolves_resourceOf {options : CompileOptions} {api : Descriptor} {entry : Templated}
    {route : Route} {pools : List Pool}
    (success : resourceOf options api entry = .ok (route, pools)) :
    Resolves options api entry route pools := by
  -- Both pools are made first, and the route leads to the first of them that there is.
  unfold resourceOf at success
  cases production : poolOf options api entry .production with
  | error fault => rw [production] at success; cases success
  | ok first =>
    cases sandbox : poolOf options api entry .sandbox with
    | error fault => rw [production, sandbox] at success; cases success
    | ok second =>
      rw [production, sandbox] at success
      simp only [bind, Except.bind] at success
      split at success
      · rename_i target chosen
        cases success
        -- Whether either environment has a pool decides which of them the route leads to.
        refine ⟨?_, ?_, target, ?_, rfl⟩ <;>
        rcases poolOf_cases production with ⟨rfl, absent⟩ | ⟨pool, rfl, source, made⟩ <;>
        rcases poolOf_cases sandbox with ⟨rfl, absent'⟩ | ⟨pool', rfl, source', made'⟩ <;>
        simp_all [Pool.source]
      · cases success

section

variable {options : CompileOptions} {api : Descriptor} {entry : Templated} {route : Route}
  {pools : List Pool}

/-- Each pool is made of the backends in some environment. -/
theorem Resolves.sourced (resolves : Resolves options api entry route pools) {pool : Pool}
    (member : pool ∈ pools) : ∃ environment, Sources options api entry environment pool := by
  -- Its name and backends are listed for one of the environments.
  have listed : pool.source ∈ pools.map Pool.source := List.mem_map_of_mem member
  rw [resolves.sources] at listed
  obtain ⟨environment, _, source⟩ := List.mem_filterMap.mp listed
  exact ⟨environment, source, resolves.made pool member⟩

/-- Where a resource has backends, it has a pool of them. -/
theorem Resolves.complete (resolves : Resolves options api entry route pools)
    {environment : Environment} {source : String × List Endpoint}
    (found : poolSource api entry environment = some source) :
    ∃ pool ∈ pools, pool.source = source ∧ Sources options api entry environment pool := by
  -- What is found in an environment is listed among the sources of both, and so it is that of a
  -- pool.
  have listed : source ∈ [Environment.production, .sandbox].filterMap (poolSource api entry) :=
    List.mem_filterMap.mpr ⟨environment, by cases environment <;> simp, found⟩
  rw [← resolves.sources] at listed
  obtain ⟨pool, member, rfl⟩ := List.mem_map.mp listed
  exact ⟨pool, member, rfl, found, resolves.made pool member⟩

end

/-- Adding resources adds what each of them compiles to, and fails with the first of them that does.
-/
theorem foldlM_addResource {options : CompileOptions} {api : Descriptor} (entries : List Templated)
    (start : Compiled) :
    entries.foldlM (addResource options api) start =
      (entries.mapM (resourceOf options api)).map fun parts =>
        { routes := start.routes ++ parts.map Prod.fst
          clusters := ((parts.flatMap Prod.snd).map Pool.cluster).foldl
            (fun found cluster => addCluster cluster found) start.clusters } := by
  -- The induction is over the resources, for any routes and clusters compiled before.
  induction entries generalizing start with
  | nil => simp [pure, Except.pure, Except.map]
  | cons entry rest ih =>
    rw [List.foldlM_cons, List.mapM_cons]
    unfold addResource
    cases resourceOf options api entry with
    | error fault => rfl
    | ok part =>
      -- The first resource is put behind the start, and the rest behind both.
      refine (ih _).trans ?_
      cases rest.mapM (resourceOf options api) with
      | error fault => rfl
      | ok parts =>
        simp [bind, Except.bind, pure, Except.pure, Except.map, List.foldl_append, List.foldl_map]

/-- Compiling puts together what the resources that count compile to. -/
theorem compile_eq (options : CompileOptions) (api : Descriptor) :
    compile options api = ((effective api).mapM (resourceOf options api)).map fun parts =>
      ⟨parts.map Prod.fst,
        Keyed.putAll Cluster.name ((parts.flatMap Prod.snd).map Pool.cluster)⟩ := by
  -- Nothing is compiled before the first resource.
  unfold compile
  rw [foldlM_addResource]
  simp only [List.nil_append, foldl_addCluster]

/-- A compiled API is put together of what its resources compile to. -/
theorem compile_eq_ok {options : CompileOptions} {api : Descriptor} {compiled : Compiled}
    (success : compile options api = .ok compiled) :
    ∃ parts : List (Route × List Pool),
      (effective api).mapM (resourceOf options api) = .ok parts ∧
      compiled.routes = parts.map Prod.fst ∧
      compiled.clusters =
        Keyed.putAll Cluster.name ((parts.flatMap Prod.snd).map Pool.cluster) := by
  -- Compiling succeeds only if all resources do.
  rw [compile_eq] at success
  obtain ⟨parts, done, rfl⟩ := exists_of_map_eq_ok success
  exact ⟨parts, done, rfl, rfl⟩

/-- Each resource that counts compiles to the route at its place, and to some pools. -/
theorem forall₂_resolves {options : CompileOptions} {api : Descriptor} {compiled : Compiled}
    (success : compile options api = .ok compiled) :
    List.Forall₂ (fun entry route => entry ∈ effective api ∧
        ∃ pools, Resolves options api entry route pools)
      (effective api) compiled.routes := by
  obtain ⟨parts, done, routes, _⟩ := compile_eq_ok success
  rw [routes, List.forall₂_map_right_iff]
  -- Resources and parts stand in pairs, and each resource is kept with its place.
  have pairs := (List.forall₂_and_left (effective api) parts).mpr
    ⟨fun entry counts => counts, forall₂_of_mapM done⟩
  exact pairs.imp fun entry part ⟨counts, resolved⟩ =>
    ⟨counts, part.2, resolves_resourceOf resolved⟩

/-- Each cluster of a compiled API is that of a resource in some environment. -/
theorem source_of_mem_clusters {options : CompileOptions} {api : Descriptor} {compiled : Compiled}
    (success : compile options api = .ok compiled) {cluster : Cluster}
    (member : cluster ∈ compiled.clusters) :
    ∃ entry ∈ effective api, ∃ environment, ∃ pool, pool.cluster = cluster ∧
      Sources options api entry environment pool := by
  obtain ⟨parts, done, _, clusters⟩ := compile_eq_ok success
  rw [clusters] at member
  -- The cluster is that of a pool, the pool is one of a resource, and the resource counts.
  obtain ⟨pool, among, same⟩ := List.mem_map.mp (Keyed.mem_of_mem_putAll member)
  obtain ⟨part, listed, inside⟩ := List.mem_flatMap.mp among
  obtain ⟨entry, counts, resolved⟩ := exists_of_mapM done listed
  obtain ⟨environment, sources⟩ := (resolves_resourceOf resolved).sourced inside
  exact ⟨entry, counts, environment, pool, same, sources⟩

/-- Every name that a resource has for its backends is the name of a cluster. -/
theorem mem_names_of_source {options : CompileOptions} {api : Descriptor} {compiled : Compiled}
    (success : compile options api = .ok compiled) {entry : Templated}
    (counts : entry ∈ effective api) {environment : Environment} {name : String}
    {endpoints : List Endpoint}
    (source : poolSource api entry environment = some (name, endpoints)) :
    name ∈ compiled.clusters.map Cluster.name := by
  -- The resource has compiled to some part, whose pools include one of this source.
  obtain ⟨parts, done, _, clusters⟩ := compile_eq_ok success
  obtain ⟨part, listed, resolved⟩ := result_of_mapM done counts
  obtain ⟨pool, inside, same, _⟩ := (resolves_resourceOf resolved).complete source
  rw [clusters, Keyed.mem_keys_putAll]
  -- The pool is one of those whose clusters are put together.
  exact List.mem_map.mpr ⟨pool.cluster,
    List.mem_map_of_mem (List.mem_flatMap.mpr ⟨part, listed, inside⟩), (Prod.mk.inj same).1⟩

/-- The target of every route is the name of a cluster of the same API. -/
theorem mem_names_of_route {options : CompileOptions} {api : Descriptor} {compiled : Compiled}
    (success : compile options api = .ok compiled) {route : Route}
    (member : route ∈ compiled.routes) : route.cluster ∈ compiled.clusters.map Cluster.name := by
  obtain ⟨parts, done, routes, clusters⟩ := compile_eq_ok success
  rw [routes] at member
  -- The route is that of a resource, whose pools include the target.
  obtain ⟨part, listed, same⟩ := List.mem_map.mp member
  obtain ⟨entry, counts, resolved⟩ := exists_of_mapM done listed
  obtain ⟨pool, first, target⟩ := (resolves_resourceOf resolved).target
  rw [clusters, Keyed.mem_keys_putAll]
  refine List.mem_map.mpr ⟨pool.cluster,
    List.mem_map_of_mem (List.mem_flatMap.mpr ⟨part, listed, List.mem_of_head? first⟩), ?_⟩
  rw [← same, target]
  rfl

/-- No two clusters of a compiled API have one name. -/
theorem nodup_names_clusters {options : CompileOptions} {api : Descriptor} {compiled : Compiled}
    (success : compile options api = .ok compiled) :
    (compiled.clusters.map Cluster.name).Nodup := by
  -- They are put together from nothing.
  obtain ⟨parts, _, _, clusters⟩ := compile_eq_ok success
  rw [clusters]
  exact Keyed.nodup_keys_putAll _

end Compile

/-- An API with a backend for itself and another one for its only operation. -/
def Descriptor.petStore : Descriptor :=
  { name := "pets", version := "v1", basePath := "/"
    resources := [
      { path := "/pets", method := .get, operationId := none, summary := none
        production := [⟨.production, "http://own-a:80", "http", "own-a", 80, "", false⟩]
        sandbox := [] }]
    production := [⟨.production, "http://shared-a:80", "http", "shared-a", 80, "", false⟩]
    sandbox := [], labels := .default, requestTimeout := none, provider := none
    extensions := .empty }

example : (compile {} .petStore).map (fun compiled =>
      (compiled.routes.map Route.cluster, compiled.clusters.map Cluster.name)) =
    .ok (["cluster_production_pets_v1_get_45aa7f5a"],
      ["cluster_production_pets_v1_get_45aa7f5a"]) := by
  decide +kernel

end ControlPlane
