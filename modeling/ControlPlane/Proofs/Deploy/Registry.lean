import ControlPlane.Deploy.Deployer
import ControlPlane.Proofs.Compile.Clusters
import ControlPlane.Proofs.Ordered.Map

/-! Registering and erasing: which APIs are deployed then, and which labels keep their members. -/

namespace ControlPlane

namespace Registry

/-- Whether every deployment is filed under its identity, with what its description compiles to. -/
def Filed (compileOptions : CompileOptions) (registry : Registry) : Prop :=
  ∀ ⦃id deployment⦄, registry.get? id = some deployment →
    deployment.api.id = id ∧ compile compileOptions deployment.api = .ok deployment.compiled

/-- The members of a label are the deployed APIs that carry it. -/
theorem mem_members {registry : Registry} {label : Label} {deployment : Deployment} :
    deployment ∈ registry.members label ↔
      (∃ id, registry.get? id = some deployment) ∧ label ∈ deployment.api.labels := by
  -- They are filtered from the values of the registry.
  unfold members
  rw [List.mem_filter, OrderedMap.mem_values, decide_eq_true_iff]

/-- The members of a label stand in the order of their identities. -/
theorem members_pairwise {compileOptions : CompileOptions} {registry : Registry}
    (filed : registry.Filed compileOptions) (label : Label) :
    ((registry.members label).map fun deployment => deployment.api.id).Pairwise (· < ·) := by
  -- They are selected from the values, which stand in that order.
  refine List.Pairwise.sublist (List.filter_sublist.map _) ?_
  exact OrderedMap.values_pairwise fun found => (filed found).1

/-- A label keeps its members when neither the API that comes nor the one that goes carries it. -/
theorem members_insert {registry : Registry} {id : ApiId} {deployment : Deployment} {label : Label}
    (fresh : label ∉ deployment.api.labels)
    (replaced : ∀ old, registry.get? id = some old → label ∉ old.api.labels) :
    members (registry.insert id deployment) label = registry.members label :=
  OrderedMap.filter_values_insert (by simpa using fresh) (by simpa using replaced)

/-- A label keeps its members when the API that is erased does not carry it. -/
theorem members_erase {registry : Registry} {id : ApiId} {label : Label}
    (erased : ∀ old, registry.get? id = some old → label ∉ old.api.labels) :
    members (registry.erase id) label = registry.members label :=
  OrderedMap.filter_values_erase (by simpa using erased)

/-- What a label's proxies get depends on the members of the label alone. -/
theorem resources_congr {left right : Registry} {label : Label} (listener : ListenerSettings)
    (same : left.members label = right.members label) :
    left.resources listener label = right.resources listener label := by
  -- Nothing else of the registry is read.
  unfold resources
  rw [same]

/-- A label without members has no resources at all. -/
theorem resources_of_members_nil {registry : Registry} {label : Label} (listener : ListenerSettings)
    (none : registry.members label = []) : registry.resources listener label = .empty := by
  unfold resources
  rw [none]

/-- The routes of a label are those of its members, one member after the other. -/
theorem routes_resources (registry : Registry) (listener : ListenerSettings) (label : Label) :
    ((registry.resources listener label).routeTables.flatMap fun table => table.host.routes) =
      (registry.members label).flatMap fun deployment => deployment.compiled.routes := by
  -- All routes stand in the one table, and without members there is no table.
  unfold resources
  cases registry.members label with
  | nil => rfl
  | cons first rest => simp [aggregate, RouteTable.ofRoutes]

/-- The clusters of a label are those of its members, put by their names. -/
theorem clusters_resources (registry : Registry) (listener : ListenerSettings) (label : Label) :
    (registry.resources listener label).clusters = Keyed.putAll Cluster.name
      ((registry.members label).flatMap fun deployment => deployment.compiled.clusters) := by
  -- Merging adds the clusters of the members in their order.
  have merged : (registry.resources listener label).clusters =
      mergedClusters (registry.members label) := by
    unfold resources
    cases registry.members label <;> rfl
  rw [merged, mergedClusters, Compile.foldl_addCluster]

end Registry

namespace Deploy

/-- What is registered after some deployments was registered before, or is one of them. -/
theorem get?_register {deployments : List Deployment} {registry : Registry}
    {touched : OrderedSet Label} {id : ApiId} {deployment : Deployment}
    (found : (register registry touched deployments).1.get? id = some deployment) :
    registry.get? id = some deployment ∨ deployment ∈ deployments ∧ deployment.api.id = id := by
  -- The induction is on the deployments, for any registry that the first ones have left.
  induction deployments generalizing registry touched with
  | nil => exact Or.inl found
  | cons first rest ih =>
    -- What the rest does not bring was there when the first had come.
    rcases ih found with before | ⟨member, own⟩
    · rw [OrderedMap.get?_insert] at before
      split at before
      · -- The first deployment is what is found under its own identity.
        rename_i same
        cases before
        exact Or.inr ⟨List.mem_cons_self, same⟩
      · exact Or.inl before
    · exact Or.inr ⟨List.mem_cons_of_mem _ member, own⟩

/-- A label that is not touched was not touched before, and has the members that it had. -/
theorem members_register {deployments : List Deployment} {registry : Registry}
    {touched : OrderedSet Label} {label : Label}
    (untouched : label ∉ (register registry touched deployments).2) :
    label ∉ touched ∧
      (register registry touched deployments).1.members label = registry.members label := by
  -- The induction is on the deployments, with the labels that are touched so far.
  induction deployments generalizing registry touched with
  | nil => exact ⟨untouched, rfl⟩
  | cons first rest ih =>
    -- The labels of this API and of the one it replaces are all touched.
    obtain ⟨earlier, members⟩ := ih untouched
    simp only [OrderedSet.mem_union, not_or] at earlier
    obtain ⟨⟨before, fresh⟩, replaced⟩ := earlier
    refine ⟨before, members.trans (Registry.members_insert fresh fun old found => ?_)⟩
    rw [found] at replaced
    exact replaced

end Deploy

end ControlPlane
