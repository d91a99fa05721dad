import ControlPlane.Proofs.Compile.Clusters
import ControlPlane.Proofs.Deploy.Deployer
import ControlPlane.Proofs.Discovery.History

/-! What commands publish: every label that they touch, once each, and no other label. -/

namespace ControlPlane

namespace Deploy

/-- The touched labels are those that were touched before, those that a deployment carries, and
those that an API carried in whose place a deployment comes. -/
theorem mem_touched_register {deployments : List Deployment} {registry : Registry}
    {touched : OrderedSet Label} {label : Label} :
    label ∈ (register registry touched deployments).2 ↔ label ∈ touched ∨
      ∃ deployment ∈ deployments, label ∈ deployment.api.labels ∨
        ∃ old, registry.get? deployment.api.id = some old ∧ label ∈ old.api.labels := by
  -- The induction is on the deployments, with the registry as each of them finds it.
  induction deployments generalizing registry touched with
  | nil => simp [register]
  | cons first rest ih =>
    -- What the first one replaces is looked up before it comes, what the others replace after it.
    have replaced : label ∈ ((registry.get? first.api.id).map fun old => old.api.labels.set).getD
        .empty ↔ ∃ old, registry.get? first.api.id = some old ∧ label ∈ old.api.labels := by
      cases registry.get? first.api.id with
      | none => exact iff_of_false List.not_mem_nil (by simp)
      | some old => exact ⟨fun member => ⟨old, rfl, member⟩, fun ⟨_, same, member⟩ => by
          cases same
          exact member⟩
    rw [register, ih, OrderedSet.mem_union, OrderedSet.mem_union, replaced]
    simp only [List.exists_mem_cons_iff, OrderedMap.get?_insert]
    constructor
    · rintro (((before | own) | old) | ⟨later, member, carries | ⟨old, found, carried⟩⟩)
      · exact Or.inl before
      · exact Or.inr (Or.inl (Or.inl own))
      · exact Or.inr (Or.inl (Or.inr old))
      · exact Or.inr (Or.inr ⟨later, member, Or.inl carries⟩)
      · -- A later one may come in the place of the first one itself.
        split at found
        · cases found
          exact Or.inr (Or.inl (Or.inl carried))
        · exact Or.inr (Or.inr ⟨later, member, Or.inr ⟨old, found, carried⟩⟩)
    · rintro (before | (own | old) | ⟨later, member, carries | ⟨old, found, carried⟩⟩)
      · exact Or.inl (Or.inl (Or.inl before))
      · exact Or.inl (Or.inl (Or.inr own))
      · exact Or.inl (Or.inr old)
      · exact Or.inr ⟨later, member, Or.inl carries⟩
      · -- If the first one has taken the place already, it has touched what was there.
        by_cases same : first.api.id = later.api.id
        · exact Or.inl (Or.inr ⟨old, same ▸ found, carried⟩)
        · exact Or.inr ⟨later, member, Or.inr ⟨old, by rw [if_neg same]; exact found, carried⟩⟩

end Deploy

namespace Deployer

/-- The labels that deployments touch, if they were staged. -/
def labelsOf (deployer : Deployer) : Except Deploy.Fault (List Deploy.Staged) → List Label
  | .ok staged => (Deploy.register deployer.registry .empty (Deploy.deployments staged)).2.items
  | .error _ => []

/-- The labels that a command publishes, one after the other. -/
def touched (deployer : Deployer) : Command → List Label
  | .deploy options caller apis => deployer.labelsOf (deployer.staging options caller apis)
  | .deployBundle options caller archive =>
    deployer.labelsOf
      (Deploy.readBundle deployer.maxExtracted archive >>= deployer.staging options caller)
  | .delete id => ((deployer.registry.get? id).map fun removed => removed.api.labels.toList).getD []

/-- What a command publishes: its labels, from the registry as the command leaves it. -/
def publishes (deployer : Deployer) (command : Command) : List Cache.Operation :=
  let after := (deployer.perform command).1
  (deployer.touched command).map fun label =>
    .publish label (after.registry.resources after.listener label)

/-- What commands publish, one after the other. -/
def history (deployer : Deployer) : List Command → List Cache.Operation
  | [] => []
  | command :: rest =>
    deployer.publishes command ++ (deployer.perform command).1.history rest

/-- Whether a command touches a label, given its report: an API that is deployed carries the label,
or the API in whose place it comes carried it, or the API that is deleted did. -/
def Touches (deployer : Deployer) (label : Label) : Command → Option Report → Prop
  | .delete id, _ => ∃ removed, deployer.registry.get? id = some removed ∧
      label ∈ removed.api.labels
  | _, report => ∃ api ∈ (report.map Report.deployed).getD [], label ∈ api.labels ∨
      ∃ old, deployer.registry.get? api.id = some old ∧ label ∈ old.api.labels

/-- What a command comes to, and the labels that it touches then. -/
inductive Performed (deployer : Deployer) (command : Command) : Prop where
  | failed {fault : Deploy.Fault} (done : deployer.perform command = (deployer, .error fault))
    (labels : deployer.touched command = [])
  | entered {staged : List Deploy.Staged}
    (done : deployer.perform command =
      (deployer.enter (Deploy.deployments staged), .ok (some (Deploy.report staged))))
    (labels : deployer.touched command =
      (Deploy.register deployer.registry .empty (Deploy.deployments staged)).2.items)
    (touches : ∀ label, deployer.Touches label command (some (Deploy.report staged)) ↔
      ∃ api ∈ (Deploy.report staged).deployed, label ∈ api.labels ∨
        ∃ old, deployer.registry.get? api.id = some old ∧ label ∈ old.api.labels)
  | withdrawn {id : ApiId} {removed : Deployment}
    (found : deployer.registry.get? id = some removed)
    (done : deployer.perform command = (deployer.withdraw id removed, .ok none))
    (labels : deployer.touched command = removed.api.labels.toList)
    (touches : ∀ label, deployer.Touches label command none ↔ label ∈ removed.api.labels)

/-- Every command comes to one of these things. -/
theorem performed (deployer : Deployer) (command : Command) : deployer.Performed command := by
  -- The cases are the commands, and each of them is looked at by what it is computed to.
  cases command with
  | deploy options caller apis =>
    cases success : deployer.staging options caller apis with
    | error fault => exact .failed (by rw [perform_deploy, success]) (by rw [touched, success]; rfl)
    | ok staged =>
      exact .entered (by rw [perform_deploy, success]) (by rw [touched, success]; rfl)
        fun _ => Iff.rfl
  | deployBundle options caller archive =>
    cases contents : Deploy.readBundle deployer.maxExtracted archive with
    | error fault =>
      exact .failed (by rw [perform_deployBundle, contents]) (by rw [touched, contents]; rfl)
    | ok apis =>
      -- A bundle is deployed as the APIs that it describes.
      have unpacked : deployer.perform (.deployBundle options caller archive) =
          deployer.perform (.deploy options caller apis) := by rw [perform_deployBundle, contents]
      have labels : deployer.touched (.deployBundle options caller archive) =
          deployer.labelsOf (deployer.staging options caller apis) := by
        rw [touched, contents]
        rfl
      rw [perform_deploy] at unpacked
      cases success : deployer.staging options caller apis with
      | error fault =>
        rw [success] at unpacked labels
        exact .failed unpacked labels
      | ok staged =>
        rw [success] at unpacked labels
        exact .entered unpacked labels fun _ => Iff.rfl
  | delete id =>
    cases found : deployer.registry.get? id with
    | none => exact .failed (by rw [perform_delete, found]) (by rw [touched, found]; rfl)
    | some removed =>
      refine .withdrawn found (by rw [perform_delete, found]) (by rw [touched, found]; rfl) ?_
      exact fun label => by simp [Touches, found]

/-- No label is touched twice. -/
theorem nodup_touched (deployer : Deployer) (command : Command) :
    (deployer.touched command).Nodup := by
  -- The labels ascend, whether they are collected or those of one API.
  have distinct : ∀ labels : OrderedSet Label, labels.items.Nodup := fun labels =>
    labels.ascending.imp fun less => StrictOrder.ne_of_lt less
  cases deployer.performed command with
  | failed _ labels => rw [labels]; exact .nil
  | entered _ labels _ => rw [labels]; exact distinct _
  | withdrawn _ _ labels _ => rw [labels]; exact distinct _

/-- The touched labels are those that the report shows to be touched. -/
theorem mem_touched {deployer : Deployer} {command : Command} {report : Option Report}
    (success : (deployer.perform command).2 = .ok report) (label : Label) :
    label ∈ deployer.touched command ↔ deployer.Touches label command report := by
  -- Only a command that succeeds has a report.
  cases deployer.performed command with
  | failed done _ => rw [done] at success; cases success
  | @entered staged done labels touches =>
    rw [done] at success
    cases success
    rw [labels, touches]
    refine Deploy.mem_touched_register.trans ((or_iff_right List.not_mem_nil).trans ?_)
    -- The report lists the deployments with their identities and labels.
    simp [Deploy.report]
  -- The labels of the API that is withdrawn are those that are told.
  | withdrawn _ done labels touches =>
    rw [done] at success
    cases success
    rw [labels, touches]
    rfl

/-- Publishing labels is what the cache is asked for, one label after the other. -/
theorem cache_republish (deployer : Deployer) (labels : List Label) :
    (deployer.republish labels).cache = deployer.cache.run (labels.map fun label =>
      .publish label (deployer.registry.resources deployer.listener label)) := by
  -- The cache is changed by one publication after the other, and by nothing else.
  unfold Cache.run
  rw [List.foldl_map]
  rfl

/-- All that a command does to the cache is to publish. -/
theorem cache_perform (deployer : Deployer) (command : Command) :
    (deployer.perform command).1.cache = deployer.cache.run (deployer.publishes command) := by
  unfold publishes
  -- Publishing is from the registry as it is after the change.
  cases deployer.performed command with
  | failed done labels => rw [done, labels]; rfl
  | @entered staged done labels _ =>
    rw [done, labels]
    let registry := (Deploy.register deployer.registry .empty (Deploy.deployments staged)).1
    exact cache_republish { deployer with registry } _
  | @withdrawn id _ _ done labels _ =>
    rw [done, labels]
    exact cache_republish { deployer with registry := deployer.registry.erase id } _

/-- A label that is among distinct labels is published once with them, and any other label never. -/
theorem publications_publish {labels : List Label} (distinct : labels.Nodup)
    (resources : Label → ResourceSet) (label : Label) :
    Cache.publications label (labels.map fun other => .publish other (resources other)) =
      if label ∈ labels then [resources label] else [] := by
  -- The labels are gone through one by one, and none of them comes twice.
  induction labels with
  | nil => rfl
  | cons first rest ih =>
    obtain ⟨apart, distinct⟩ := List.nodup_cons.mp distinct
    have others := ih distinct
    unfold Cache.publications at others ⊢
    rw [List.map_cons, List.filterMap_cons, others, Cache.Operation.published]
    by_cases here : first = label
    · -- It does not come again among the others.
      subst here
      simp [apart]
    · simp [here, Ne.symm here]

/-- A command gives each label that it touches the next version, with what the registry has for it
then, and leaves all other labels as they are. -/
theorem current_perform (deployer : Deployer) (command : Command) (label : Label) :
    let after := (deployer.perform command).1
    after.cache.current label =
      if label ∈ deployer.touched command then
        ⟨label, (deployer.cache.current label).version + 1,
          after.registry.resources after.listener label⟩
      else deployer.cache.current label := by
  intro after
  have published := publications_publish (deployer.nodup_touched command)
    (after.registry.resources after.listener) label
  rw [cache_perform, Cache.current_run, publishes, published]
  -- The publications of the command are all that happens to the label, and there is one or none.
  split
  · rfl
  · exact deployer.cache.mk_current label

/-- All that commands do to the cache is to publish. -/
theorem cache_run (deployer : Deployer) (commands : List Command) :
    (deployer.run commands).cache = deployer.cache.run (deployer.history commands) := by
  -- The induction is on the commands, from any deployer.
  induction commands generalizing deployer with
  | nil => rfl
  | cons command rest ih =>
    -- The first command publishes, and then the others do.
    rw [history, Cache.run_append, ← cache_perform]
    exact ih (deployer.perform command).1

/-- After any commands, a command that succeeds gives every label that it touches the next version,
exactly once however many of its APIs share the label, and leaves every other label as it is. So of
whatever is ever seen of a label, at any moment between two publications, equal versions are equal
snapshots. -/
theorem published_once_run (compileOptions : CompileOptions) (listener : ListenerSettings)
    (maxExtracted : Nat) (commands : List Command) :
    let start := new compileOptions listener maxExtracted
    (∀ command report, ((start.run commands).perform command).2 = .ok report → ∀ label,
      let before := start.run commands
      let after := (before.perform command).1
      (before.Touches label command report →
        after.cache.current label = ⟨label, (before.cache.current label).version + 1,
          after.registry.resources listener label⟩) ∧
      (¬ before.Touches label command report →
        after.cache.current label = before.cache.current label)) ∧
    (start.run commands).cache = Cache.empty.run (start.history commands) ∧
    ∀ early late, early <+: late → late <+: start.history commands → ∀ label,
      ((Cache.empty.run early).current label).version =
        ((Cache.empty.run late).current label).version →
      (Cache.empty.run early).current label = (Cache.empty.run late).current label := by
  intro start
  refine ⟨fun command report success label => ?_, cache_run start commands, ?_⟩
  · intro before after
    have settings : after.listener = listener :=
      (before.changed_perform command).settings.2.trans (settings_run start commands).2
    have current : after.cache.current label = _ := before.current_perform command label
    rw [settings] at current
    -- What is touched is what the report shows.
    refine ⟨fun touches => ?_, fun quiet => ?_⟩
    · rw [current, if_pos ((mem_touched success label).mpr touches)]
    · rw [current, if_neg (quiet ∘ (mem_touched success label).mp)]
  · -- What is published later makes the version greater, or it is about other labels.
    rintro early late ⟨later, rfl⟩ - label version
    rw [Cache.run_append] at version ⊢
    exact ((Cache.empty.run early).advances_run later).eq_of_version version

/-- Two APIs that share a label publish it together, and the deletion of one publishes it again. -/
example : ((new {} ⟨"default", "0.0.0.0", 9090, none⟩ 0).history
      [.deploy {} "admin" [.petStore, { Descriptor.petStore with name := "toys" }],
        .delete Descriptor.petStore.id]).map Cache.Operation.entered =
    [some .default, some .default] := by
  decide +kernel

end Deployer

end ControlPlane
