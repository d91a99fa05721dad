import ControlPlane.Proofs.Deploy.Names
import ControlPlane.Proofs.Deploy.Registry
import ControlPlane.Proofs.Deploy.Work
import ControlPlane.Proofs.Discovery.Cache
import ControlPlane.Proofs.Sequence

/-! What a command does to a deployer, and what holds of it after any commands. -/

namespace ControlPlane

namespace Deploy

/-- A deployment that staging makes has the identity of an API of the upload, and what its
description compiles to. -/
theorem of_mem_deployments {compileOptions : CompileOptions} {registry : Registry}
    {options : DeployOptions} {caller : String} {apis : List Descriptor} {staged : List Staged}
    (done : apis.mapM (stage compileOptions registry options caller) = .ok staged)
    {deployment : Deployment} (member : deployment ∈ deployments staged) :
    deployment.api.id ∈ apis.map Descriptor.id ∧
      compile compileOptions deployment.api = .ok deployment.compiled := by
  -- The deployment is what one of the APIs was staged to.
  obtain ⟨result, among, made⟩ := List.mem_filterMap.mp member
  obtain ⟨api, listed, computed⟩ := exists_of_mapM done among
  cases result with
  | skipped _ => cases made
  | compiled _ =>
    cases made
    unfold stage at computed
    dsimp only at computed
    split at computed
    · -- Only the provider is not the one of the upload.
      rename_i success
      cases computed
      exact ⟨List.mem_map.mpr ⟨api, listed, rfl⟩, success⟩
    · cases computed
    · cases computed

end Deploy

namespace Deployer

/-- A label that is published gets what the registry has for it, and any other keeps what it has. -/
theorem resources_republish (deployer : Deployer) (labels : List Label) (label : Label) :
    ((deployer.republish labels).cache.current label).resources =
      if label ∈ labels then deployer.registry.resources deployer.listener label
      else (deployer.cache.current label).resources := by
  obtain ⟨compileOptions, listener, maxExtracted, registry, cache⟩ := deployer
  simp only [republish]
  -- The cache changes with every label, so the induction is for any cache.
  induction labels generalizing cache with
  | nil => rfl
  | cons first rest ih =>
    -- What the rest publishes is told by the induction, and the first one is published before it.
    rw [List.foldl_cons, ih, Cache.current_publish]
    by_cases later : label ∈ rest
    · -- It is published again later, from the same registry.
      rw [if_pos later, if_pos (List.mem_cons_of_mem _ later)]
    · by_cases here : first = label
      · -- It is published here and not again.
        subst here
        rw [if_neg later, if_pos rfl, if_pos List.mem_cons_self]
      · -- It is published neither here nor later.
        rw [if_neg later, if_neg here, if_neg]
        exact fun member => (List.mem_cons.mp member).elim (fun same => here same.symm) later

/-- Publishing only brings newer snapshots. -/
theorem advances_republish (deployer : Deployer) (labels : List Label) :
    deployer.cache.Advances (deployer.republish labels).cache := by
  obtain ⟨compileOptions, listener, maxExtracted, registry, cache⟩ := deployer
  simp only [republish]
  -- Each publication brings a newer snapshot of one label.
  induction labels generalizing cache with
  | nil => exact .refl cache
  | cons first rest ih => exact (cache.advances_publish first _).trans (ih _)

/-- Publishing leaves the watchers alone, who look when they come to it. -/
theorem watchers_republish (deployer : Deployer) (labels : List Label) :
    (deployer.republish labels).cache.watchers = deployer.cache.watchers := by
  obtain ⟨compileOptions, listener, maxExtracted, registry, cache⟩ := deployer
  simp only [republish]
  -- No publication touches them.
  induction labels generalizing cache with
  | nil => rfl
  | cons first rest ih => exact ih _

/-- What a command can make of a deployer. -/
inductive Changed (deployer : Deployer) : Deployer → Prop where
  /-- The command fails. -/
  | kept : Changed deployer deployer
  | entered {options : DeployOptions} {caller : String} {apis : List Descriptor}
    {staged : List Deploy.Staged} (fresh : deployer.checkNew options apis = .ok ())
    (granted : Deploy.claimNames deployer.registry.owners apis = .ok ())
    (done : apis.mapM (Deploy.stage deployer.compileOptions deployer.registry options caller) =
      .ok staged) :
    Changed deployer (deployer.enter (Deploy.deployments staged))
  | withdrawn {id : ApiId} {removed : Deployment}
    (found : deployer.registry.get? id = some removed) :
    Changed deployer (deployer.withdraw id removed)

/-- What is staged for a deployment has passed all checks. -/
theorem of_staging_eq_ok {deployer : Deployer} {options : DeployOptions} {caller : String}
    {apis : List Descriptor} {staged : List Deploy.Staged}
    (success : deployer.staging options caller apis = .ok staged) :
    deployer.checkNew options apis = .ok () ∧
      Deploy.claimNames deployer.registry.owners apis = .ok () ∧
      apis.mapM (Deploy.stage deployer.compileOptions deployer.registry options caller) =
        .ok staged := by
  -- Each of the three steps must have succeeded.
  unfold staging at success
  cases fresh : deployer.checkNew options apis with
  | error fault => rw [fresh] at success; cases success
  | ok _ =>
    cases granted : Deploy.claimNames deployer.registry.owners apis with
    | error fault => rw [fresh, granted] at success; cases success
    | ok _ => rw [fresh, granted] at success; exact ⟨rfl, rfl, success⟩

/-- A deployment does one of these things. -/
theorem changed_deploy (deployer : Deployer) (options : DeployOptions) (caller : String)
    (apis : List Descriptor) :
    deployer.Changed (deployer.perform (.deploy options caller apis)).1 := by
  -- A deployment that fails a check fails as a whole.
  rw [perform_deploy]
  cases success : deployer.staging options caller apis with
  | error fault => exact .kept
  | ok staged =>
    obtain ⟨fresh, granted, done⟩ := of_staging_eq_ok success
    exact .entered fresh granted done

/-- Every command does one of these things. -/
theorem changed_perform (deployer : Deployer) (command : Command) :
    deployer.Changed (deployer.perform command).1 := by
  -- The cases are the commands.
  cases command with
  | deploy options caller apis => exact deployer.changed_deploy options caller apis
  | deployBundle options caller archive =>
    -- A bundle is deployed as the APIs that it describes.
    rw [perform_deployBundle]
    cases Deploy.readBundle deployer.maxExtracted archive with
    | error fault => exact .kept
    | ok apis => exact deployer.changed_deploy options caller apis
  | delete id =>
    -- What is not registered cannot be deleted.
    rw [perform_delete]
    cases found : deployer.registry.get? id with
    | none => exact .kept
    | some removed => exact .withdrawn found

/-- No command changes the settings. -/
theorem Changed.settings {deployer next : Deployer} (changed : deployer.Changed next) :
    -- Neither entering nor withdrawing writes any of them.
    next.compileOptions = deployer.compileOptions ∧ next.listener = deployer.listener := by
  cases changed <;> exact ⟨rfl, rfl⟩

/-- Commands only bring newer snapshots. -/
theorem Changed.advances {deployer next : Deployer} (changed : deployer.Changed next) :
    deployer.cache.Advances next.cache := by
  -- Entering and withdrawing publish from a registry that was changed before.
  cases changed with
  | kept => exact .refl _
  | @entered _ _ _ staged _ _ _ =>
    let registry := (Deploy.register deployer.registry .empty (Deploy.deployments staged)).1
    exact advances_republish { deployer with registry } _
  | @withdrawn id _ _ =>
    exact advances_republish { deployer with registry := deployer.registry.erase id } _

/-- Commands leave the watchers alone. -/
theorem Changed.watchers {deployer next : Deployer} (changed : deployer.Changed next) :
    next.cache.watchers = deployer.cache.watchers := by
  -- Whatever is published, it is only published.
  cases changed with
  | kept => rfl
  | @entered _ _ _ staged _ _ _ =>
    let registry := (Deploy.register deployer.registry .empty (Deploy.deployments staged)).1
    exact watchers_republish { deployer with registry } _
  | @withdrawn id _ _ =>
    exact watchers_republish { deployer with registry := deployer.registry.erase id } _

/-- Every command keeps the deployments filed, with what they compile to. -/
theorem Changed.filed {deployer next : Deployer} (changed : deployer.Changed next)
    (filed : deployer.registry.Filed deployer.compileOptions) :
    next.registry.Filed next.compileOptions := by
  intro id deployment found
  -- What is registered then was registered before, or was staged for this upload.
  cases changed with
  | kept => exact filed found
  | withdrawn _ => exact filed (OrderedMap.get?_of_get?_erase found)
  | entered _ _ done =>
    rcases Deploy.get?_register found with before | ⟨member, own⟩
    · exact filed before
    · exact ⟨own, (Deploy.of_mem_deployments done member).2⟩

/-- The resources of a label after a command are those that it had, or what the registry has for
it then. -/
theorem Changed.resources {deployer next : Deployer} (changed : deployer.Changed next)
    (label : Label) :
    (next.cache.current label).resources = (deployer.cache.current label).resources ∨
      (next.cache.current label).resources = next.registry.resources next.listener label := by
  -- A label is published from the changed registry, or it is not published.
  cases changed with
  | kept => exact Or.inl rfl
  | entered _ _ _ =>
    unfold enter
    rw [resources_republish]
    split
    · exact Or.inr rfl
    · exact Or.inl rfl
  | withdrawn _ =>
    unfold withdraw
    rw [resources_republish]
    split
    · exact Or.inr rfl
    · exact Or.inl rfl

/-- Whether the cache is in step with the registry, and the registry in good order. -/
structure Sound (deployer : Deployer) : Prop where
  inStep : ∀ label, (deployer.cache.current label).resources =
    deployer.registry.resources deployer.listener label
  filed : deployer.registry.Filed deployer.compileOptions
  apart : deployer.registry.Apart

/-- With nothing deployed no label has resources. -/
theorem sound_new (compileOptions : CompileOptions) (listener : ListenerSettings)
    (maxExtracted : Nat) : (new compileOptions listener maxExtracted).Sound where
  inStep label := (Registry.resources_of_members_nil listener rfl).symm
  filed _ _ found := by cases found
  apart _ _ member := absurd member List.not_mem_nil

/-- Entering deployments publishes every label whose members they change. -/
theorem inStep_enter {deployer : Deployer} {label : Label}
    (inStep : (deployer.cache.current label).resources =
      deployer.registry.resources deployer.listener label) (deployments : List Deployment) :
    ((deployer.enter deployments).cache.current label).resources =
      (deployer.enter deployments).registry.resources deployer.listener label := by
  unfold enter
  rw [resources_republish]
  split
  · -- A label that is touched is published from the registry as it is then.
    rfl
  · -- A label that is not touched keeps its snapshot, and has the members that it had.
    rename_i untouched
    have members := (Deploy.members_register untouched).2
    exact inStep.trans (Registry.resources_congr _ members.symm)

/-- Withdrawing an API publishes every label that it carried. -/
theorem inStep_withdraw {deployer : Deployer} {label : Label}
    (inStep : (deployer.cache.current label).resources =
      deployer.registry.resources deployer.listener label) {id : ApiId} {removed : Deployment}
    (found : deployer.registry.get? id = some removed) :
    ((deployer.withdraw id removed).cache.current label).resources =
      (deployer.withdraw id removed).registry.resources deployer.listener label := by
  unfold withdraw
  rw [resources_republish]
  split
  · -- A label that the API carried is published without it.
    rfl
  · -- The API that goes does not carry the label.
    rename_i untouched
    have members : Registry.members (deployer.registry.erase id) label =
        deployer.registry.members label := Registry.members_erase fun old held => by
      rw [found] at held
      exact Option.some.inj held ▸ untouched
    exact inStep.trans (Registry.resources_congr _ members.symm)

/-- What is registered after an upload was registered before or is a part of it. -/
theorem mem_keys_enter {deployer : Deployer} {options : DeployOptions} {caller : String}
    {apis : List Descriptor} {staged : List Deploy.Staged}
    (done : apis.mapM (Deploy.stage deployer.compileOptions deployer.registry options caller) =
      .ok staged) {id : ApiId}
    (member : id ∈ (deployer.enter (Deploy.deployments staged)).registry.keys) :
    id ∈ deployer.registry.keys ++ apis.map Descriptor.id := by
  obtain ⟨deployment, found⟩ := OrderedMap.mem_keys.mp member
  -- What was staged has the identity of an API of the upload.
  rcases Deploy.get?_register found with before | ⟨among, own⟩
  · exact List.mem_append_left _ (OrderedMap.mem_keys.mpr ⟨_, before⟩)
  · exact List.mem_append_right _ (own ▸ (Deploy.of_mem_deployments done among).1)

/-- Every command keeps the names of different APIs apart. -/
theorem Changed.apart {deployer next : Deployer} (changed : deployer.Changed next)
    (apart : deployer.registry.Apart) : next.registry.Apart := by
  -- Two registered APIs with one key were both registered before, or were both claimed.
  intro a b first second same
  cases changed with
  | kept => exact apart first second same
  | @withdrawn id _ _ =>
    -- Those that are left were registered before.
    have kept : ∀ {other}, other ∈ (deployer.registry.erase id).keys →
        other ∈ deployer.registry.keys := by
      intro other member
      obtain ⟨deployment, held⟩ := OrderedMap.mem_keys.mp member
      exact OrderedMap.mem_keys.mpr ⟨_, OrderedMap.get?_of_get?_erase held⟩
    exact apart (kept first) (kept second) same
  | entered _ granted done =>
    -- The claims of the whole upload are granted, so old and new APIs all own their keys.
    obtain ⟨final, owns⟩ := Deploy.claimNames_owns granted apart.owns
    exact owns.eq_of_key (mem_keys_enter done first) (mem_keys_enter done second) same

/-- A command keeps the deployer sound, whatever becomes of it. -/
theorem Sound.changed {deployer next : Deployer} (sound : deployer.Sound)
    (changed : deployer.Changed next) : next.Sound where
  inStep label := by
    -- Whatever is done, it is done to a cache that was in step.
    cases changed with
    | kept => exact sound.inStep label
    | entered _ _ _ => exact inStep_enter (sound.inStep label) _
    | withdrawn found => exact inStep_withdraw (sound.inStep label) found
  filed := changed.filed sound.filed
  apart := changed.apart sound.apart

/-- What every command preserves holds after any number of them. -/
theorem run_induction (holds : Deployer → Prop) {deployer : Deployer} (start : holds deployer)
    (step : ∀ {before after}, holds before → before.Changed after → holds after)
    (commands : List Command) : holds (deployer.run commands) := by
  -- The induction is over the commands, from any deployer of which it holds.
  unfold run
  induction commands generalizing deployer with
  | nil => exact start
  | cons command rest ih => exact ih (step start (deployer.changed_perform command))

/-- A deployer that started with nothing deployed is sound after any commands. -/
theorem sound_run (compileOptions : CompileOptions) (listener : ListenerSettings)
    (maxExtracted : Nat) (commands : List Command) :
    ((new compileOptions listener maxExtracted).run commands).Sound :=
  run_induction Sound (sound_new ..) Sound.changed commands

/-- The settings are those of the start after any commands. -/
theorem settings_run (deployer : Deployer) (commands : List Command) :
    (deployer.run commands).compileOptions = deployer.compileOptions ∧
      (deployer.run commands).listener = deployer.listener := by
  -- No command changes them, so no sequence of commands does.
  refine run_induction (fun next => next.compileOptions = deployer.compileOptions ∧
    next.listener = deployer.listener) ⟨rfl, rfl⟩ (fun held changed => ?_) commands
  obtain ⟨options, listener⟩ := changed.settings
  exact ⟨options.trans held.1, listener.trans held.2⟩

/-- After any commands every deployment is filed under its identity, compiled with the options of
the start. -/
theorem filed_run (compileOptions : CompileOptions) (listener : ListenerSettings)
    (maxExtracted : Nat) (commands : List Command) :
    ((new compileOptions listener maxExtracted).run commands).registry.Filed compileOptions := by
  -- The deployments are filed for the settings that there are then, which are those of the start.
  have options := (settings_run (new compileOptions listener maxExtracted) commands).1
  have filed := (sound_run compileOptions listener maxExtracted commands).filed
  rw [options] at filed
  exact filed

/-- After any commands every label has what the registry gives it with the listener of the start. -/
theorem resources_run (compileOptions : CompileOptions) (listener : ListenerSettings)
    (maxExtracted : Nat) (commands : List Command) (label : Label) :
    (((new compileOptions listener maxExtracted).run commands).cache.current label).resources =
      ((new compileOptions listener maxExtracted).run commands).registry.resources listener
        label := by
  have settings := (settings_run (new compileOptions listener maxExtracted) commands).2
  rw [(sound_run compileOptions listener maxExtracted commands).inStep, settings]
  rfl

end Deployer

end ControlPlane
