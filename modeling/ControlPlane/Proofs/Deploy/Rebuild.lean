import ControlPlane.Proofs.Deploy.Deployer

/-! Publishing the touched labels alone gives every label what publishing all of them would. -/

namespace ControlPlane

namespace Registry

/-- In a registry in good order, the members of a label are the APIs deployed under their own
identities that carry it. -/
theorem mem_members_of_filed {compileOptions : CompileOptions} {registry : Registry}
    (filed : registry.Filed compileOptions) {label : Label} {deployment : Deployment} :
    deployment ∈ registry.members label ↔
      registry.get? deployment.api.id = some deployment ∧ label ∈ deployment.api.labels := by
  rw [mem_members]
  refine and_congr_left fun _ => ⟨fun ⟨id, found⟩ => ?_, fun found => ⟨_, found⟩⟩
  -- The identity under which it is deployed is its own.
  rw [(filed found).1]
  exact found

end Registry

namespace Deployer

/-- After any commands, from the first on, the current snapshot of any label has exactly the
resources that the whole registry gives it. Its routes are those of the deployed APIs that carry the
label, one API after the other by their identities; without such an API it has nothing; and how the
registry came about does not matter. -/
theorem current_run_eq_rebuilt (compileOptions : CompileOptions) (listener : ListenerSettings)
    (maxExtracted : Nat) (commands : List Command) (label : Label) :
    let deployer := (new compileOptions listener maxExtracted).run commands
    let resources := (deployer.cache.current label).resources
    resources = deployer.registry.resources listener label ∧
    (∃ members : List Deployment,
      (∀ deployment, deployment ∈ members ↔
        deployer.registry.get? deployment.api.id = some deployment ∧
          label ∈ deployment.api.labels) ∧
      (members.map fun deployment => deployment.api.id).Pairwise (· < ·) ∧
      (∀ deployment ∈ members,
        compile compileOptions deployment.api = .ok deployment.compiled) ∧
      (resources.routeTables.flatMap fun table => table.host.routes) =
        members.flatMap fun deployment => deployment.compiled.routes) ∧
    ((∀ id deployment, deployer.registry.get? id = some deployment →
        label ∉ deployment.api.labels) → resources = .empty) ∧
    ∀ others, ((new compileOptions listener maxExtracted).run others).registry = deployer.registry →
      (((new compileOptions listener maxExtracted).run others).cache.current label).resources =
        resources := by
  intro deployer resources
  -- Everything follows from the cache being in step, here and after the other commands.
  have rebuilt := fun others => resources_run compileOptions listener maxExtracted others label
  have here : resources = deployer.registry.resources listener label := rebuilt commands
  have filed := filed_run compileOptions listener maxExtracted commands
  refine ⟨here, ⟨deployer.registry.members label, fun deployment => ?_, ?_,
    fun deployment => ?_, ?_⟩, fun none => ?_, fun others same => ?_⟩
  · exact Registry.mem_members_of_filed filed
  · exact Registry.members_pairwise filed label
  · intro member
    obtain ⟨id, found⟩ := (Registry.mem_members.mp member).1
    exact (filed found).2
  · rw [here]
    exact Registry.routes_resources deployer.registry listener label
  · rw [here]
    refine Registry.resources_of_members_nil listener ?_
    -- A member would be a deployed API that carries the label.
    refine List.eq_nil_iff_forall_not_mem.mpr fun deployment member => ?_
    obtain ⟨⟨id, found⟩, carries⟩ := Registry.mem_members.mp member
    exact none id deployment found carries
  · rw [here, rebuilt others, same]

end Deployer

end ControlPlane
