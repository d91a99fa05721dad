import ControlPlane.Deploy.Deployer

/-! How far the work on a deployer goes: whatever can break it off comes before the first change. -/

namespace ControlPlane

/-- Taking an API out of a registry that does not have it changes nothing. -/
theorem Registry.erase_of_get?_eq_none {registry : Registry} {id : ApiId}
    (missing : registry.get? id = none) : registry.erase id = registry := by
  -- Maps are the same if they hold the same under every key, and this key holds nothing.
  refine OrderedMap.ext fun other => ?_
  rw [OrderedMap.get?_erase]
  split
  · rename_i same
    rw [← same, missing]
  · rfl

namespace Deployer

/-- Computing one after the other is one computation, so it changes nothing wherever it stops. -/
theorem Work.mapM_ofExcept {α β : Type} (compute : α → Except Deploy.Fault β) (inputs : List α) :
    (inputs.mapM fun input => ofExcept (compute input)) = ofExcept (inputs.mapM compute) := by
  -- The induction is on the inputs.
  induction inputs with
  | nil => rfl
  | cons input rest ih =>
    rw [List.mapM_cons, List.mapM_cons, ih]
    -- It stops at the first input, or in the rest, or not at all.
    cases compute input with
    | error fault => rfl
    | ok result => cases rest.mapM compute <;> rfl

/-- Work with another result goes just as far. -/
theorem Work.run_map {α β : Type} (make : α → β) (work : Work α) (deployer : Deployer) :
    (make <$> work).run deployer =
      match work.run deployer with
      | .ok result next => .ok (make result) next
      | .error fault after => .error fault after := by
  -- The work is carried out first, and its result is changed only if it succeeds.
  show EStateM.map make work deployer = _
  unfold EStateM.map EStateM.run
  cases work deployer <;> rfl

variable (deployer : Deployer) (options : DeployOptions) (caller : String)

/-- What a deployment computes before it changes anything. -/
def staging (apis : List Descriptor) : Except Deploy.Fault (List Deploy.Staged) := do
  deployer.checkNew options apis
  Deploy.claimNames deployer.registry.owners apis
  apis.mapM (Deploy.stage deployer.compileOptions deployer.registry options caller)

/-- The deployer without an API, after every label that the API carried is published. -/
def withdraw (id : ApiId) (removed : Deployment) : Deployer :=
  { deployer with registry := deployer.registry.erase id }.republish removed.api.labels.toList

/-- A deployment enters what was staged, or leaves the deployer as it is, at whatever API of the
upload it breaks off. -/
theorem run_deploy (apis : List Descriptor) :
    (deploy options caller apis).run deployer =
      match deployer.staging options caller apis with
      | .ok staged => .ok (Deploy.report staged) (deployer.enter (Deploy.deployments staged))
      | .error fault => .error fault deployer := by
  -- What is computed for every API is one computation, between the checks and the change.
  have steps : (deploy options caller apis).run deployer = ((do
      Work.ofExcept (deployer.checkNew options apis)
      Work.ofExcept (Deploy.claimNames deployer.registry.owners apis)
      let staged ← Work.ofExcept (apis.mapM
        (Deploy.stage deployer.compileOptions deployer.registry options caller))
      modify (·.enter (Deploy.deployments staged))
      return Deploy.report staged : Work Report)).run deployer := by
    rw [← Work.mapM_ofExcept]
    rfl
  rw [steps, staging]
  -- Whichever of the three computations fails, the work breaks off there.
  cases deployer.checkNew options apis with
  | error fault => rfl
  | ok _ =>
    cases Deploy.claimNames deployer.registry.owners apis with
    | error fault => rfl
    | ok _ =>
      cases apis.mapM (Deploy.stage deployer.compileOptions deployer.registry options caller) with
      | error fault => rfl
      | ok staged => rfl

/-- A bundle is deployed as the APIs that it describes, or it leaves the deployer as it is. -/
theorem run_deployBundle (archive : ByteArray) :
    (deployBundle options caller archive).run deployer =
      match Deploy.readBundle deployer.maxExtracted archive with
      | .ok apis => (deploy options caller apis).run deployer
      | .error fault => .error fault deployer := by
  -- The documents are read before anything is deployed.
  have steps : (deployBundle options caller archive).run deployer =
      (Work.ofExcept (Deploy.readBundle deployer.maxExtracted archive) >>= fun apis =>
        deploy options caller apis).run deployer := rfl
  -- Whether the bundle can be read decides whether there is anything to deploy.
  rw [steps]
  cases Deploy.readBundle deployer.maxExtracted archive <;> rfl

/-- Deleting takes an API out and publishes its labels; one that is missing was not there to be
taken out. -/
theorem run_delete (id : ApiId) :
    (delete id).run deployer =
      match deployer.registry.get? id with
      | none => .error (.notDeployed id) deployer
      | some removed => .ok () (deployer.withdraw id removed) := by
  -- The API is taken out first, and only then it shows whether it was there.
  have steps : (delete id).run deployer =
      ((match deployer.registry.get? id with
        | none => throw (.notDeployed id)
        | some removed => modify (·.republish removed.api.labels.toList) : Work Unit)).run
          { deployer with registry := deployer.registry.erase id } := rfl
  rw [steps]
  cases missing : deployer.registry.get? id with
  | none =>
    have same : deployer.registry.erase id = deployer.registry :=
      Registry.erase_of_get?_eq_none missing
    rw [same]
    rfl
  | some removed => rfl

/-- A deployment that fails leaves the deployer as it is. -/
theorem perform_deploy (apis : List Descriptor) :
    deployer.perform (.deploy options caller apis) =
      match deployer.staging options caller apis with
      | .ok staged =>
        (deployer.enter (Deploy.deployments staged), .ok (some (Deploy.report staged)))
      | .error fault => (deployer, .error fault) := by
  -- What a command tells is the report of the work, with the deployer that the work has left.
  unfold perform work
  rw [Work.run_map, run_deploy]
  cases deployer.staging options caller apis <;> rfl

/-- A bundle that cannot be read leaves the deployer as it is. -/
theorem perform_deployBundle (archive : ByteArray) :
    deployer.perform (.deployBundle options caller archive) =
      match Deploy.readBundle deployer.maxExtracted archive with
      | .ok apis => deployer.perform (.deploy options caller apis)
      | .error fault => (deployer, .error fault) := by
  unfold perform work
  rw [Work.run_map, run_deployBundle]
  -- A bundle that is read is deployed just as its APIs would be.
  cases Deploy.readBundle deployer.maxExtracted archive with
  | error fault => rfl
  | ok apis => simp only [Work.run_map]

/-- An API that is not deployed cannot be deleted, and trying leaves the deployer as it is. -/
theorem perform_delete (id : ApiId) :
    deployer.perform (.delete id) =
      match deployer.registry.get? id with
      | none => (deployer, .error (.notDeployed id))
      | some removed => (deployer.withdraw id removed, .ok none) := by
  -- The command tells nothing but that the API is gone.
  unfold perform work
  rw [Work.run_map, run_delete]
  cases deployer.registry.get? id <;> rfl

end Deployer

end ControlPlane
