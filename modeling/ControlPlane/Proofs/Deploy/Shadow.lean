import ControlPlane.Proofs.Compile.Clusters
import ControlPlane.Proofs.Compile.Naming
import ControlPlane.Proofs.Deploy.Deployer

/-! APIs whose clusters have one name although their keys differ, and whose backends the proxies
are given then. -/

namespace ControlPlane

namespace Descriptor

/-- Whether some resource uses the backends of the whole API in an environment. -/
def Shares (api : Descriptor) (environment : Environment) : Prop :=
  ∃ entry ∈ Compile.effective api,
    entry.resource.endpoints environment = [] ∧ api.endpoints environment ≠ []

/-- Whether an operation has backends of its own in an environment. -/
def Overrides (api : Descriptor) (environment : Environment) (method : Method)
    (template : String) : Prop :=
  ∃ entry ∈ Compile.effective api, entry.resource.endpoints environment ≠ [] ∧
    entry.resource.method = method ∧ entry.template = template

/-- Whether the cluster of an API is named like that of an operation of another one: its key is the
key of the other with the end of the operation's name. -/
def Shadows (api other : Descriptor) : Prop :=
  ∃ environment method template, api.Shares environment ∧
    other.Overrides environment method template ∧
    Naming.apiKey api.id = Naming.apiKey other.id ++ Naming.operation method template

end Descriptor

namespace Compile

/-- The names of the clusters of an API are those of the backends that its resources use. -/
theorem mem_names_clusters {options : CompileOptions} {api : Descriptor} {compiled : Compiled}
    (success : compile options api = .ok compiled) {name : String} :
    name ∈ compiled.clusters.map Cluster.name ↔
      (∃ environment, api.Shares environment ∧ name = Naming.cluster api.id environment) ∨
      ∃ environment method template, api.Overrides environment method template ∧
        name = Naming.overrideCluster api.id environment method template := by
  constructor
  · intro member
    obtain ⟨cluster, among, named⟩ := List.mem_map.mp member
    obtain ⟨entry, counts, environment, pool, same, source, _⟩ :=
      source_of_mem_clusters success among
    -- The backends are the operation's own if there are any, or else those of the whole API.
    simp only [poolSource, Bool.not_eq_eq_eq_not, Bool.not_true, List.isEmpty_eq_false_iff]
      at source
    split at source
    · rename_i own
      have sources := (Prod.mk.inj (Option.some.inj source)).1
      exact Or.inr ⟨environment, _, _, ⟨entry, counts, own, rfl, rfl⟩,
        by rw [← named, ← same, sources]⟩
    · rename_i none
      split at source
      · rename_i shared
        have sources := (Prod.mk.inj (Option.some.inj source)).1
        exact Or.inl ⟨environment, ⟨entry, counts, not_not.mp none, shared⟩,
          by rw [← named, ← same, sources]⟩
      · cases source
  · rintro (⟨environment, ⟨entry, counts, none, shared⟩, rfl⟩ |
      ⟨environment, method, template, ⟨entry, counts, own, rfl, rfl⟩, rfl⟩)
    · -- A resource that uses the backends of the whole API has a pool of them.
      have source : poolSource api entry environment =
          some (Naming.cluster api.id environment, api.endpoints environment) := by
        simp [poolSource, none, shared]
      exact mem_names_of_source success counts source
    · have source : poolSource api entry environment =
          some (Naming.overrideCluster api.id environment entry.resource.method entry.template,
            entry.resource.endpoints environment) := by
        simp [poolSource, own]
      exact mem_names_of_source success counts source

/-- Two APIs with different keys have a common name of clusters exactly if one of them shadows an
operation of the other. -/
theorem common_name_iff {options : CompileOptions} {a b : Descriptor} {first second : Compiled}
    (compiledFirst : compile options a = .ok first)
    (compiledSecond : compile options b = .ok second)
    (apart : Naming.apiKey a.id ≠ Naming.apiKey b.id) :
    (∃ name, name ∈ first.clusters.map Cluster.name ∧ name ∈ second.clusters.map Cluster.name) ↔
      a.Shadows b ∨ b.Shadows a := by
  constructor
  · rintro ⟨name, inFirst, inSecond⟩
    rcases (mem_names_clusters compiledFirst).mp inFirst with
      ⟨environment, shares, named⟩ | ⟨environment, method, template, overrides, named⟩ <;>
    rcases (mem_names_clusters compiledSecond).mp inSecond with
      ⟨environment', shares', named'⟩ | ⟨environment', method', template', overrides', named'⟩
    · -- Names of one kind tell the key.
      exact absurd (Naming.cluster_eq_cluster_iff.mp (named.symm.trans named')).2 apart
    · -- The whole API is the one that shadows the operation.
      obtain ⟨environments, keys⟩ :=
        Naming.cluster_eq_overrideCluster_iff.mp (named.symm.trans named')
      exact Or.inl ⟨_, method', template', shares, environments ▸ overrides', keys⟩
    · obtain ⟨environments, keys⟩ :=
        Naming.cluster_eq_overrideCluster_iff.mp (named'.symm.trans named)
      exact Or.inr ⟨_, method, template, shares', environments ▸ overrides, keys⟩
    · exact absurd (Naming.eq_of_overrideCluster (named.symm.trans named')).2.1 apart
  · rintro (⟨environment, method, template, shares, overrides, keys⟩ |
      ⟨environment, method, template, shares, overrides, keys⟩)
    · exact ⟨_, (mem_names_clusters compiledFirst).mpr (Or.inl ⟨environment, shares, rfl⟩),
        (mem_names_clusters compiledSecond).mpr (Or.inr ⟨environment, method, template, overrides,
          Naming.cluster_eq_overrideCluster_iff.mpr ⟨rfl, keys⟩⟩)⟩
    · exact ⟨_, (mem_names_clusters compiledFirst).mpr (Or.inr ⟨environment, method, template,
          overrides, Naming.cluster_eq_overrideCluster_iff.mpr ⟨rfl, keys⟩⟩),
        (mem_names_clusters compiledSecond).mpr (Or.inl ⟨environment, shares, rfl⟩)⟩

end Compile

/-- The names of the clusters that a deployed API compiled to. -/
def Deployment.clusterNames (deployment : Deployment) : List String :=
  deployment.compiled.clusters.map Cluster.name

/-- The key of an API alone never ends like one of its own operations. -/
theorem Descriptor.not_shadows_self (api : Descriptor) : ¬ api.Shadows api := by
  rintro ⟨environment, method, template, _, _, same⟩
  exact Naming.ne_append_operation _ _ _ same

namespace Registry

/-- In a registry in good order, different APIs have a common name of clusters exactly if one of
them shadows an operation of the other. -/
theorem common_name_iff_shadows {compileOptions : CompileOptions} {registry : Registry}
    (filed : registry.Filed compileOptions) (apart : registry.Apart) {a b : ApiId}
    {first second : Deployment} (foundFirst : registry.get? a = some first)
    (foundSecond : registry.get? b = some second) (different : a ≠ b) :
    (∃ name, name ∈ first.clusterNames ∧ name ∈ second.clusterNames) ↔
      first.api.Shadows second.api ∨ second.api.Shadows first.api := by
  -- Different APIs that are deployed have different keys.
  obtain ⟨rfl, compiledFirst⟩ := filed foundFirst
  obtain ⟨rfl, compiledSecond⟩ := filed foundSecond
  refine Compile.common_name_iff compiledFirst compiledSecond fun same => different ?_
  exact apart (OrderedMap.mem_keys.mpr ⟨_, foundFirst⟩) (OrderedMap.mem_keys.mpr ⟨_, foundSecond⟩)
    same

/-- Of the clusters that some deployments have under one name, the last one is the last deployment's
that has one. -/
theorem getLast?_clusters (members : List Deployment) (name : String) :
    ((members.flatMap fun deployment => deployment.compiled.clusters).filter
        (·.name = name)).getLast? =
      (members.filter fun deployment => name ∈ deployment.clusterNames).getLast?.bind
        fun deployment => (deployment.compiled.clusters.filter (·.name = name)).getLast? := by
  induction members with
  | nil => rfl
  | cons first rest ih =>
    rw [List.flatMap_cons, List.filter_append, List.getLast?_append, ih, List.filter_cons]
    cases later : (rest.filter fun deployment => name ∈ deployment.clusterNames).getLast? with
    | none =>
      -- The first deployment counts, if it has the name.
      have none := List.getLast?_eq_none_iff.mp later
      by_cases named : name ∈ first.clusterNames
      · simp [named, none]
      · simp [named, none, Keyed.filter_eq_nil named]
    | some winner =>
      -- A later deployment has the name, and so a cluster with it.
      have chosen := List.mem_of_getLast? later
      have named : name ∈ winner.clusterNames := by simpa using (List.mem_filter.mp chosen).2
      obtain ⟨last, _, _, found⟩ := Keyed.exists_last named
      rw [Option.bind_some, found, Option.some_or]
      by_cases also : name ∈ first.clusterNames
      · rw [if_pos (by simpa using also), List.getLast?_cons, later, Option.getD_some,
          Option.bind_some, found]
      · rw [if_neg (by simpa using also), later, Option.bind_some, found]

/-- Under a name that some member of a label has for a cluster, the label has one cluster: that of
the last member, by the identities, that has the name. -/
theorem exists_winner {compileOptions : CompileOptions} {registry : Registry}
    (filed : registry.Filed compileOptions) (listener : ListenerSettings) {label : Label}
    {deployment : Deployment} (member : deployment ∈ registry.members label) {name : String}
    (named : name ∈ deployment.clusterNames) :
    ∃ winner ∈ registry.members label, ∃ cluster ∈ winner.compiled.clusters, cluster.name = name ∧
      (registry.resources listener label).clusters.filter (·.name = name) = [cluster] ∧
      ∀ other ∈ registry.members label, name ∈ other.clusterNames →
        other = winner ∨ other.api.id < winner.api.id := by
  rw [clusters_resources, Keyed.filter_putAll, getLast?_clusters]
  have order : (registry.members label).Pairwise fun a b => a.api.id < b.api.id :=
    List.pairwise_map.mp (members_pairwise filed label)
  -- The members with the name stand in that order too, and there is one at least.
  generalize chosen : ((registry.members label).filter fun deployment =>
    name ∈ deployment.clusterNames) = candidates
  have mem_candidates : ∀ other, other ∈ candidates ↔
      other ∈ registry.members label ∧ name ∈ other.clusterNames := by
    simp [← chosen]
  have ordered : candidates.Pairwise fun a b => a.api.id < b.api.id := chosen ▸ order.filter _
  cases last : candidates.getLast? with
  | none =>
    have candidate := (mem_candidates deployment).mpr ⟨member, named⟩
    rw [List.getLast?_eq_none_iff.mp last] at candidate
    cases candidate
  | some winner =>
    obtain ⟨earlier, split⟩ := List.getLast?_eq_some_iff.mp last
    obtain ⟨among, has⟩ := (mem_candidates winner).mp (List.mem_of_getLast? last)
    obtain ⟨cluster, inside, same, found⟩ := Keyed.exists_last has
    refine ⟨winner, among, cluster, inside, same, ?_, fun other listed also => ?_⟩
    · rw [Option.bind_some, found]
      rfl
    · -- Whatever has the name stands before the winner, or is the winner.
      have candidate := (mem_candidates other).mpr ⟨listed, also⟩
      rw [split] at candidate ordered
      rcases List.mem_append.mp candidate with before | here
      · exact Or.inr ((List.pairwise_append.mp ordered).2.2 other before winner
          (List.mem_singleton.mpr rfl))
      · exact Or.inl (List.mem_singleton.mp here)

end Registry

/-- An API whose version spells the end of the name of an operation of the pet store. -/
def Descriptor.lookalike : Descriptor :=
  { name := "pets", version := "v1 get 45aa7f5a", basePath := "/"
    resources := [
      { path := "/other", method := .get, operationId := none, summary := none, production := []
        sandbox := [] }]
    production := [⟨.production, "http://backend-b:80", "http", "backend-b", 80, "", false⟩]
    sandbox := [], labels := .default, requestTimeout := none, provider := none
    extensions := .empty }

namespace Deployer

/-- Whether the target of a route names one cluster for a label, which an API compiled to. -/
def Leads (deployer : Deployer) (label : Label) (route : Route) (deployment : Deployment) : Prop :=
  ∃ cluster ∈ deployment.compiled.clusters,
    (deployer.cache.current label).resources.clusters.filter (·.name = route.cluster) = [cluster]

/-- No two deployed APIs have a common name of clusters exactly if none shadows another. -/
theorem Sound.disjoint_names_iff {deployer : Deployer} (sound : deployer.Sound) :
    (∀ a b first second, deployer.registry.get? a = some first →
        deployer.registry.get? b = some second → a ≠ b →
        ∀ name, name ∈ first.clusterNames → name ∉ second.clusterNames) ↔
      ∀ a b first second, deployer.registry.get? a = some first →
        deployer.registry.get? b = some second → ¬ first.api.Shadows second.api := by
  constructor
  · -- A shadow has a name in common with what it shadows, and no API shadows itself.
    intro disjoint a b first second foundFirst foundSecond shadows
    by_cases same : a = b
    · subst same
      have here := Option.some.inj (foundFirst.symm.trans foundSecond)
      exact Descriptor.not_shadows_self _ (here ▸ shadows)
    · obtain ⟨name, inFirst, inSecond⟩ := (Registry.common_name_iff_shadows sound.filed sound.apart
        foundFirst foundSecond same).mpr (Or.inl shadows)
      exact disjoint a b first second foundFirst foundSecond same name inFirst inSecond
  · intro unshadowed a b first second foundFirst foundSecond different name inFirst inSecond
    -- A common name makes one of the two the shadow of the other.
    rcases (Registry.common_name_iff_shadows sound.filed sound.apart foundFirst foundSecond
      different).mp ⟨name, inFirst, inSecond⟩ with shadows | shadows
    · exact unshadowed a b first second foundFirst foundSecond shadows
    · exact unshadowed b a second first foundSecond foundFirst shadows

/-- A route of a member leads to the cluster of the last member with the name of its target, which
is the API of the route itself, or one that shadows it or is shadowed by it. -/
theorem Sound.exists_leads {deployer : Deployer} (sound : deployer.Sound) {label : Label}
    {deployment : Deployment} (member : deployment ∈ deployer.registry.members label)
    {route : Route} (listed : route ∈ deployment.compiled.routes) :
    ∃ winner ∈ deployer.registry.members label, deployer.Leads label route winner ∧
      (∀ other ∈ deployer.registry.members label, route.cluster ∈ other.clusterNames →
        other = winner ∨ other.api.id < winner.api.id) ∧
      (winner = deployment ∨ winner.api.Shadows deployment.api ∨
        deployment.api.Shadows winner.api) := by
  obtain ⟨⟨id, found⟩, _⟩ := Registry.mem_members.mp member
  have named := Compile.mem_names_of_route (sound.filed found).2 listed
  obtain ⟨winner, among, cluster, inside, same, only, last⟩ :=
    Registry.exists_winner sound.filed deployer.listener member named
  refine ⟨winner, among, ⟨cluster, inside, by rw [sound.inStep]; exact only⟩, last, ?_⟩
  -- A winner that is another API has the name in common with the API of the route.
  obtain ⟨⟨id', found'⟩, _⟩ := Registry.mem_members.mp among
  by_cases other : id' = id
  · subst other
    exact Or.inl (Option.some.inj (found'.symm.trans found))
  · have common : ∃ name, name ∈ winner.clusterNames ∧ name ∈ deployment.clusterNames :=
      ⟨_, List.mem_map.mpr ⟨cluster, inside, same⟩, named⟩
    exact Or.inr ((Registry.common_name_iff_shadows sound.filed sound.apart found' found other).mp
      common)

/-- After any commands, no two deployed APIs have a common name of clusters exactly if none shadows
an operation of another. In the snapshot of every label a route leads to the cluster of the last
member that has the name, which is the API of the route itself or one that shadows it or is shadowed
by it; so where no member shadows another, every route leads to a cluster of its own API. -/
theorem disjoint_names_run_iff (compileOptions : CompileOptions) (listener : ListenerSettings)
    (maxExtracted : Nat) (commands : List Command) :
    let deployer := (new compileOptions listener maxExtracted).run commands
    ((∀ a b first second, deployer.registry.get? a = some first →
        deployer.registry.get? b = some second → a ≠ b →
        ∀ name, name ∈ first.clusterNames → name ∉ second.clusterNames) ↔
      ∀ a b first second, deployer.registry.get? a = some first →
        deployer.registry.get? b = some second → ¬ first.api.Shadows second.api) ∧
    (∀ label, ∀ deployment ∈ deployer.registry.members label,
      ∀ route ∈ deployment.compiled.routes,
      ∃ winner ∈ deployer.registry.members label, deployer.Leads label route winner ∧
        (∀ other ∈ deployer.registry.members label, route.cluster ∈ other.clusterNames →
          other = winner ∨ other.api.id < winner.api.id) ∧
        (winner = deployment ∨ winner.api.Shadows deployment.api ∨
          deployment.api.Shadows winner.api)) ∧
    ∀ label, (∀ a ∈ deployer.registry.members label, ∀ b ∈ deployer.registry.members label,
        ¬ a.api.Shadows b.api) →
      ∀ deployment ∈ deployer.registry.members label, ∀ route ∈ deployment.compiled.routes,
        deployer.Leads label route deployment := by
  intro deployer
  have sound : deployer.Sound := sound_run compileOptions listener maxExtracted commands
  refine ⟨sound.disjoint_names_iff, fun label deployment member route listed =>
    sound.exists_leads member listed, fun label unshadowed deployment member route listed => ?_⟩
  -- The last member with the name can only be the API of the route.
  obtain ⟨winner, among, leads, _, own | shadows | shadows⟩ := sound.exists_leads member listed
  · exact own ▸ leads
  · exact absurd shadows (unshadowed winner among deployment member)
  · exact absurd shadows (unshadowed deployment member winner among)

/-- The pet store and the other API are deployed one after the other, and then the route to the
operation of the first leads to the backends of the second. -/
theorem shadow_is_deployed :
    let deployer := (new {} ⟨"default", "0.0.0.0", 9090, none⟩ 0).run
      [.deploy {} "admin" [.petStore], .deploy {} "admin" [.lookalike]]
    ∃ first second, deployer.registry.get? Descriptor.petStore.id = some first ∧
      deployer.registry.get? Descriptor.lookalike.id = some second ∧
      Descriptor.petStore.id ≠ Descriptor.lookalike.id ∧
      (∃ name, name ∈ first.clusterNames ∧ name ∈ second.clusterNames) ∧
      first ∈ deployer.registry.members .default ∧
      ∃ route ∈ first.compiled.routes, ¬ deployer.Leads .default route first ∧
        deployer.Leads .default route second := by
  intro deployer
  let route : Route :=
    ⟨"pets_v1_get_45aa7f5a", "/pets", .get, "cluster_production_pets_v1_get_45aa7f5a",
      .ofSeconds 60, some "own-a", none⟩
  let pool (host : String) : Cluster :=
    ⟨"cluster_production_pets_v1_get_45aa7f5a", [⟨host, 80⟩], false, none, .ofSeconds 5⟩
  -- What the deployer holds is computed, field by field.
  have held : (deployer.registry.get? Descriptor.petStore.id).map
        (fun deployment => (deployment.api.labels, deployment.compiled)) =
      some (.default, ⟨[route], [pool "own-a"]⟩) := by decide +kernel
  have held' : (deployer.registry.get? Descriptor.lookalike.id).map
        (fun deployment => deployment.compiled.clusters) =
      some [pool "backend-b"] := by decide +kernel
  have merged : (deployer.cache.current .default).resources.clusters = [pool "backend-b"] := by
    decide +kernel
  obtain ⟨first, found, compiled⟩ := Option.map_eq_some_iff.mp held
  obtain ⟨second, found', clusters'⟩ := Option.map_eq_some_iff.mp held'
  obtain ⟨labels, compiled⟩ := Prod.mk.inj compiled
  have member : first ∈ deployer.registry.members .default :=
    Registry.mem_members.mpr ⟨⟨_, found⟩, by rw [labels]; decide⟩
  refine ⟨first, second, found, found', by decide, ⟨(pool "own-a").name, ?_, ?_⟩, member, route, ?_,
    ?_, ⟨pool "backend-b", ?_, ?_⟩⟩
  · rw [Deployment.clusterNames, compiled]
    exact List.mem_cons_self
  · rw [Deployment.clusterNames, clusters']
    exact List.mem_cons_self
  · rw [compiled]
    exact List.mem_cons_self
  · rintro ⟨cluster, inside, only⟩
    -- The one cluster of the first API has other backends than the one in the snapshot.
    rw [compiled] at inside
    rw [merged, List.mem_singleton.mp inside] at only
    revert only
    decide
  · rw [clusters']
    exact List.mem_cons_self
  · rw [merged]
    decide

end Deployer

end ControlPlane
