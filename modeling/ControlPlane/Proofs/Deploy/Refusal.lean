import ControlPlane.Proofs.Compile.Clusters
import ControlPlane.Proofs.Deploy.Deployer

/-! When a command fails, which is told by the command and the registry, and that it then changes
nothing. -/

namespace ControlPlane

namespace Registry

/-- Whether every owner of a key is one of some APIs, and the key is its own. -/
def Listed (owners : Owners) (ids : List ApiId) : Prop :=
  ∀ key owner, owners.get? key = some owner → owner ∈ ids ∧ Naming.apiKey owner = key

/-- The owners of the names of the deployed APIs are deployed. -/
theorem listed_owners (registry : Registry) : Listed registry.owners registry.keys := by
  -- The owners are listed from the deployed APIs, each under its own key.
  intro key owner found
  obtain ⟨id, deployed, entry⟩ := List.mem_map.mp (OrderedMap.mem_of_get?_ofList found)
  cases entry
  exact ⟨deployed, rfl⟩

/-- An API that claims its key joins the owners. -/
theorem Listed.insert {owners : Owners} {ids : List ApiId} (listed : Listed owners ids)
    (id : ApiId) : Listed (OrderedMap.insert owners (Naming.apiKey id) id) (ids ++ [id]) := by
  intro key owner found
  rw [OrderedMap.get?_insert] at found
  split at found
  · -- The key is now that of the API that has joined.
    rename_i own
    cases found
    exact ⟨List.mem_append_right _ List.mem_cons_self, own⟩
  · -- Any other key has the owner that it had.
    obtain ⟨before, own⟩ := listed key owner found
    exact ⟨List.mem_append_left _ before, own⟩

end Registry

namespace Deploy

/-- A refused claim is that of an API whose key belongs to another one, from the start or claimed
earlier in the upload. -/
theorem exists_of_claimNames_error {owners : Registry.Owners} {ids : List ApiId}
    {apis : List Descriptor} {fault : Fault} (listed : Registry.Listed owners ids)
    (refused : claimNames owners apis = .error fault) :
    ∃ before api after owner, apis = before ++ api :: after ∧
      owner ∈ ids ++ before.map Descriptor.id ∧ owner ≠ api.id ∧
      Naming.apiKey owner = Naming.apiKey api.id := by
  -- The induction is on the upload, and each API that is granted its key becomes an owner for the
  -- rest.
  induction apis generalizing owners ids with
  | nil => cases refused
  | cons first rest ih =>
    -- A claim of the rest is refused after the first API has joined the owners.
    have later : claimNames (owners.insert (Naming.apiKey first.id) first.id) rest =
        .error fault → ∃ before api after owner, first :: rest = before ++ api :: after ∧
          owner ∈ ids ++ before.map Descriptor.id ∧ owner ≠ api.id ∧
          Naming.apiKey owner = Naming.apiKey api.id := by
      intro refused
      obtain ⟨before, api, after, owner, split, known, apart, same⟩ :=
        ih (listed.insert first.id) refused
      exact ⟨first :: before, api, after, owner, by rw [split]; rfl,
        by simpa using known, apart, same⟩
    -- The first claim is for a key that has an owner or for one that has none.
    simp only [claimNames] at refused
    split at refused
    · rename_i owner found
      split at refused
      · exact later refused
      · rename_i apart
        obtain ⟨known, same⟩ := listed _ _ found
        -- The key belongs to another API, which was an owner before the upload came to this one.
        exact ⟨[], first, rest, owner, rfl, by simpa using known, apart, same⟩
    · exact later refused

/-- Claims are refused exactly if an API has the key of another one, deployed or before it. -/
theorem claimNames_fails_iff {registry : Registry} (apart : registry.Apart)
    {apis : List Descriptor} :
    (∃ fault, claimNames registry.owners apis = .error fault) ↔
      ∃ before api after owner, apis = before ++ api :: after ∧
        owner ∈ registry.keys ++ before.map Descriptor.id ∧ owner ≠ api.id ∧
        Naming.apiKey owner = Naming.apiKey api.id := by
  constructor
  · rintro ⟨fault, refused⟩
    exact exists_of_claimNames_error registry.listed_owners refused
  · rintro ⟨before, api, after, owner, rfl, known, different, same⟩
    cases granted : claimNames registry.owners (before ++ api :: after) with
    | error fault => exact ⟨fault, rfl⟩
    | ok _ =>
      -- Otherwise both would own the key in the end.
      obtain ⟨final, owns⟩ := claimNames_owns granted apart.owns
      refine absurd (owns.eq_of_key ?_ ?_ same) different
      · rcases List.mem_append.mp known with deployed | earlier
        · exact List.mem_append_left _ deployed
        · exact List.mem_append_right _ (by simp at earlier ⊢; exact Or.inl earlier)
      · simp

/-- What an API compiles to does not depend on its provider. -/
theorem compile_provider (compileOptions : CompileOptions) (api : Descriptor)
    (provider : Option String) :
    compile compileOptions { api with provider } = compile compileOptions api := rfl

/-- An API cannot be staged exactly if the backends of one of its pools disagree on TLS. -/
theorem stage_fails_iff {compileOptions : CompileOptions} {registry : Registry}
    {options : DeployOptions} {caller : String} {api : Descriptor} :
    (∃ fault, stage compileOptions registry options caller api = .error fault) ↔
      ∃ cluster, compile compileOptions api = .error (.mixedTls cluster) := by
  -- The reason is that of compiling, as the provider does not matter to it.
  unfold stage
  dsimp only
  rw [compile_provider]
  -- An API that has a resource without backends is left out, which is no failure.
  cases compile compileOptions api with
  | ok compiled => simp
  | error fault => cases fault <;> simp

/-- Documents are described one by one, each API once, and none that was seen before. -/
theorem describeAll_eq_ok_iff {seen : OrderedSet ApiId} {documents : List Bundle.Document}
    {apis : List Descriptor} :
    describeAll seen documents = .ok apis ↔
      (documents.mapM fun document => Document.normalize document.contents) = .ok apis ∧
      (apis.map Descriptor.id).Nodup ∧ ∀ api ∈ apis, api.id ∉ seen := by
  -- The induction is on the documents, for whatever has been seen before them.
  induction documents generalizing seen apis with
  | nil =>
    constructor
    · intro described
      cases described
      exact ⟨rfl, .nil, by simp⟩
    · rintro ⟨normal, _, _⟩
      cases normal
      rfl
  | cons document rest ih =>
    rw [describeAll, mapM_cons_eq_ok_iff]
    constructor
    · intro described
      split at described
      · cases described
      · rename_i api normal
        split at described
        · cases described
        · -- The first API is new, and the rest does not have it again.
          rename_i fresh
          obtain ⟨others, here, same⟩ := exists_of_map_eq_ok described
          cases same
          obtain ⟨all, distinct, unseen⟩ := ih.mp here
          have once : api.id ∉ others.map Descriptor.id := fun twice => by
            obtain ⟨other, among, same⟩ := List.mem_map.mp twice
            exact unseen other among (by simp [same])
          refine ⟨⟨api, others, normal, all, rfl⟩, List.nodup_cons.mpr ⟨once, distinct⟩, ?_⟩
          -- Neither the first API nor any of the rest was seen before.
          intro other member
          rcases List.mem_cons.mp member with same | later
          · exact same ▸ fresh
          · exact fun known => unseen other later (OrderedSet.mem_insert.mpr (Or.inr known))
    · rintro ⟨⟨api, others, normal, all, rfl⟩, distinct, unseen⟩
      obtain ⟨once, distinct⟩ := List.nodup_cons.mp distinct
      have fresh : api.id ∉ seen := unseen api List.mem_cons_self
      -- With the first API seen, the rest is still unseen.
      have here : describeAll (seen.insert api.id) rest = .ok others := by
        refine ih.mpr ⟨all, distinct, fun other member known => ?_⟩
        rcases OrderedSet.mem_insert.mp known with same | known
        · exact once (List.mem_map.mpr ⟨other, member, same⟩)
        · exact unseen other (List.mem_cons_of_mem _ member) known
      simp only [normal, if_neg fresh, here]
      rfl

/-- Documents cannot be described exactly if one of them is malformed or an API comes twice. -/
theorem describeAll_fails_iff {documents : List Bundle.Document} :
    (∃ fault, describeAll .empty documents = .error fault) ↔
      (∃ document ∈ documents, ∃ fault, Document.normalize document.contents = .error fault) ∨
      ∃ apis, (documents.mapM fun document => Document.normalize document.contents) = .ok apis ∧
        ¬ (apis.map Descriptor.id).Nodup := by
  rw [← mapM_fails_iff]
  cases normal : documents.mapM fun document => Document.normalize document.contents with
  -- A document is malformed, and then the documents are not described at all.
  | error malformed =>
    refine iff_of_true ?_ (Or.inl ⟨malformed, rfl⟩)
    cases described : describeAll .empty documents with
    | error fault => exact ⟨fault, rfl⟩
    | ok apis => simp [(describeAll_eq_ok_iff.mp described).1] at normal
  | ok apis =>
    cases described : describeAll .empty documents with
    | error fault =>
      -- If every API came once, the documents would be described.
      refine iff_of_true ⟨fault, rfl⟩ (Or.inr ⟨apis, rfl, fun distinct => ?_⟩)
      have success : describeAll .empty documents = .ok apis :=
        describeAll_eq_ok_iff.mpr ⟨normal, distinct, fun _ _ known => by cases known⟩
      simp [success] at described
    -- All documents are described, so no API comes twice.
    | ok others =>
      obtain ⟨same, distinct, _⟩ := describeAll_eq_ok_iff.mp described
      rw [normal] at same
      cases same
      simpa using distinct

/-- A bundle describes no APIs exactly if it cannot be read or its documents cannot be described. -/
theorem readBundle_fails_iff {limit : Nat} {archive : ByteArray} :
    (∃ fault, readBundle limit archive = .error fault) ↔
      (∃ fault, Bundle.read limit archive = .error fault) ∨
      ∃ documents, Bundle.read limit archive = .ok documents ∧
        ∃ fault, describeAll .empty documents = .error fault := by
  unfold readBundle
  -- Reading comes first, and describing is all that is left then.
  cases Bundle.read limit archive <;> simp

end Deploy

/-- An API with a plain backend and one that wants TLS. -/
def Descriptor.mixedStore : Descriptor :=
  { name := "mixed", version := "v1", basePath := "/"
    resources := [
      { path := "/pets", method := .get, operationId := none, summary := none, production := []
        sandbox := [] }]
    production := [
      ⟨.production, "http://plain:80", "http", "plain", 80, "", false⟩,
      ⟨.production, "https://secure:443", "https", "secure", 443, "", true⟩]
    sandbox := [], labels := .default, requestTimeout := none, provider := none
    extensions := .empty }

namespace Deployer

variable {deployer : Deployer} {options : DeployOptions} {caller : String}

/-- APIs are not new exactly if one of them is deployed and not to be replaced. -/
theorem checkNew_fails_iff {apis : List Descriptor} :
    (∃ fault, deployer.checkNew options apis = .error fault) ↔
      options.overwrite = false ∧ ∃ api ∈ apis, api.id ∈ deployer.registry.keys := by
  -- The check asks the registry for each API, which is the same as looking for it among the keys.
  have deployed : ∀ api : Descriptor, api.id ∈ deployer.registry.keys ↔
      deployer.registry.has api.id = true := fun api => by
    rw [OrderedMap.mem_keys, OrderedMap.has, Option.isSome_iff_exists]
  simp only [deployed]
  unfold checkNew
  cases options.overwrite with
  | true => simp
  | false =>
    -- The first API that is found is one that is deployed.
    cases first : apis.find? fun api => deployer.registry.has api.id with
    | none => simpa using List.find?_eq_none.mp first
    | some api =>
      have found := List.find?_some first
      simpa using ⟨api, List.mem_of_find?_eq_some first, found⟩

/-- Staging fails exactly if one of its three steps does. -/
theorem staging_fails_iff {apis : List Descriptor} :
    (∃ fault, deployer.staging options caller apis = .error fault) ↔
      (∃ fault, deployer.checkNew options apis = .error fault) ∨
      (∃ fault, Deploy.claimNames deployer.registry.owners apis = .error fault) ∨
      ∃ fault, apis.mapM (Deploy.stage deployer.compileOptions deployer.registry options caller) =
        .error fault := by
  unfold staging
  -- A step is taken only if all before it have succeeded.
  cases deployer.checkNew options apis with
  | error fault => simp [bind, Except.bind]
  | ok _ => cases Deploy.claimNames deployer.registry.owners apis <;> simp [bind, Except.bind]

/-- The reasons for which a deployer refuses a command. -/
inductive Refuses (deployer : Deployer) : Command → Prop where
  /-- An API is deployed already, and is not to be replaced. -/
  | alreadyDeployed {options : DeployOptions} {caller : String} {apis : List Descriptor}
    {api : Descriptor} (member : api ∈ apis) (keeps : options.overwrite = false)
    (deployed : api.id ∈ deployer.registry.keys) : Refuses deployer (.deploy options caller apis)
  /-- An API would have the names of another one, deployed or before it in the upload. -/
  | sameNames {options : DeployOptions} {caller : String} {before after : List Descriptor}
    {api : Descriptor} {owner : ApiId}
    (known : owner ∈ deployer.registry.keys ++ before.map Descriptor.id)
    (apart : owner ≠ api.id) (same : Naming.apiKey owner = Naming.apiKey api.id) :
    Refuses deployer (.deploy options caller (before ++ api :: after))
  /-- The backends of a pool of an API disagree on TLS. -/
  | mixedTls {options : DeployOptions} {caller : String} {apis : List Descriptor}
    {api : Descriptor} {cluster : String} (member : api ∈ apis)
    (mixed : compile deployer.compileOptions api = .error (.mixedTls cluster)) :
    Refuses deployer (.deploy options caller apis)
  /-- A bundle cannot be read, or exceeds the limit. -/
  | unreadable {options : DeployOptions} {caller : String} {archive : ByteArray}
    {fault : Bundle.Fault} (broken : Bundle.read deployer.maxExtracted archive = .error fault) :
    Refuses deployer (.deployBundle options caller archive)
  /-- A document of a bundle is malformed. -/
  | malformed {options : DeployOptions} {caller : String} {archive : ByteArray}
    {documents : List Bundle.Document} {document : Bundle.Document} {fault : Document.Fault}
    (read : Bundle.read deployer.maxExtracted archive = .ok documents)
    (member : document ∈ documents)
    (broken : Document.normalize document.contents = .error fault) :
    Refuses deployer (.deployBundle options caller archive)
  /-- An API is described twice in a bundle. -/
  | repeated {options : DeployOptions} {caller : String} {archive : ByteArray}
    {documents : List Bundle.Document} {apis : List Descriptor}
    (read : Bundle.read deployer.maxExtracted archive = .ok documents)
    (described : (documents.mapM fun document => Document.normalize document.contents) = .ok apis)
    (twice : ¬ (apis.map Descriptor.id).Nodup) :
    Refuses deployer (.deployBundle options caller archive)
  /-- The APIs that a bundle describes are refused. -/
  | described {options : DeployOptions} {caller : String} {archive : ByteArray}
    {apis : List Descriptor}
    (read : Deploy.readBundle deployer.maxExtracted archive = .ok apis)
    (refused : Refuses deployer (.deploy options caller apis)) :
    Refuses deployer (.deployBundle options caller archive)
  /-- An API is to be deleted that is not deployed. -/
  | notDeployed {id : ApiId} (missing : id ∉ deployer.registry.keys) :
    Refuses deployer (.delete id)

/-- A command that fails leaves the deployer as it is. -/
theorem perform_of_fails {command : Command} {fault : Deploy.Fault}
    (failed : (deployer.perform command).2 = .error fault) :
    (deployer.perform command).1 = deployer := by
  -- An upload that fails was not staged, and nothing changes before staging is done.
  have deployment : ∀ options caller apis,
      (deployer.perform (.deploy options caller apis)).2 = .error fault →
      (deployer.perform (.deploy options caller apis)).1 = deployer := by
    intro options caller apis failed
    rw [perform_deploy] at failed ⊢
    cases staging : deployer.staging options caller apis with
    | error _ => rfl
    | ok staged => rw [staging] at failed; cases failed
  cases command with
  | deploy options caller apis => exact deployment options caller apis failed
  | deployBundle options caller archive =>
    -- A bundle that is read is deployed as the APIs that it describes.
    rw [perform_deployBundle] at failed ⊢
    cases read : Deploy.readBundle deployer.maxExtracted archive with
    | error _ => rfl
    | ok apis => rw [read] at failed; exact deployment options caller apis failed
  | delete id =>
    -- What is not registered is not taken out, and nothing is published.
    rw [perform_delete] at failed ⊢
    cases found : deployer.registry.get? id with
    | none => rfl
    | some removed => rw [found] at failed; cases failed

/-- An upload of APIs fails exactly for one of the reasons. -/
theorem perform_deploy_fails_iff (apart : deployer.registry.Apart) {apis : List Descriptor} :
    (∃ fault, (deployer.perform (.deploy options caller apis)).2 = .error fault) ↔
      deployer.Refuses (.deploy options caller apis) := by
  -- An upload that is staged does not fail any more.
  have staging : (∃ fault, (deployer.perform (.deploy options caller apis)).2 = .error fault) ↔
      ∃ fault, deployer.staging options caller apis = .error fault := by
    rw [perform_deploy]
    cases deployer.staging options caller apis <;> simp
  rw [staging, staging_fails_iff, checkNew_fails_iff, Deploy.claimNames_fails_iff apart,
    mapM_fails_iff]
  simp only [Deploy.stage_fails_iff]
  -- What remains is to match three ways to fail with three reasons.
  constructor
  · rintro (⟨keeps, api, member, deployed⟩ |
      ⟨before, api, after, owner, rfl, known, different, same⟩ | ⟨api, member, cluster, mixed⟩)
    · exact .alreadyDeployed member keeps deployed
    · exact .sameNames known different same
    · exact .mixedTls member mixed
  · intro refused
    cases refused with
    | alreadyDeployed member keeps deployed => exact Or.inl ⟨keeps, _, member, deployed⟩
    | sameNames known different same =>
      exact Or.inr (Or.inl ⟨_, _, _, _, rfl, known, different, same⟩)
    | mixedTls member mixed => exact Or.inr (Or.inr ⟨_, member, _, mixed⟩)

/-- A bundle fails exactly for one of the reasons. -/
theorem perform_deployBundle_fails_iff (apart : deployer.registry.Apart) {archive : ByteArray} :
    (∃ fault, (deployer.perform (.deployBundle options caller archive)).2 = .error fault) ↔
      deployer.Refuses (.deployBundle options caller archive) := by
  rw [perform_deployBundle]
  -- The reasons are told apart by whether the bundle describes any APIs.
  cases read : Deploy.readBundle deployer.maxExtracted archive with
  | error fault =>
    refine iff_of_true ⟨fault, rfl⟩ ?_
    rcases Deploy.readBundle_fails_iff.mp ⟨fault, read⟩ with ⟨_, broken⟩ | ⟨documents, here, failed⟩
    · exact .unreadable broken
    · rcases Deploy.describeAll_fails_iff.mp failed with
        ⟨document, member, _, broken⟩ | ⟨apis, described, twice⟩
      · exact .malformed here member broken
      · exact .repeated here described twice
  | ok apis =>
    -- The bundle was read, so no reason that is about reading can be the one.
    have succeeds : ¬ ∃ fault, Deploy.readBundle deployer.maxExtracted archive = .error fault := by
      simp [read]
    rw [Deploy.readBundle_fails_iff] at succeeds
    rw [perform_deploy_fails_iff apart]
    refine ⟨.described read, fun refused => ?_⟩
    cases refused with
    | unreadable broken => exact absurd (Or.inl ⟨_, broken⟩) succeeds
    | malformed here member broken =>
      have failed := Deploy.describeAll_fails_iff.mpr (Or.inl ⟨_, member, _, broken⟩)
      exact absurd (Or.inr ⟨_, here, failed⟩) succeeds
    | repeated here described twice =>
      have failed := Deploy.describeAll_fails_iff.mpr (Or.inr ⟨_, described, twice⟩)
      exact absurd (Or.inr ⟨_, here, failed⟩) succeeds
    -- The APIs that are refused are those that the bundle describes.
    | described here refused =>
      rw [read] at here
      cases here
      exact refused

/-- Every command fails exactly for one of the reasons. -/
theorem perform_fails_iff (apart : deployer.registry.Apart) (command : Command) :
    (∃ fault, (deployer.perform command).2 = .error fault) ↔ deployer.Refuses command := by
  cases command with
  | deploy options caller apis => exact perform_deploy_fails_iff apart
  | deployBundle options caller archive => exact perform_deployBundle_fails_iff apart
  | delete id =>
    rw [perform_delete]
    -- Whether the API is deployed decides alone.
    cases found : deployer.registry.get? id with
    | none =>
      refine iff_of_true ⟨_, rfl⟩ (.notDeployed fun deployed => ?_)
      obtain ⟨removed, here⟩ := OrderedMap.mem_keys.mp deployed
      rw [found] at here
      cases here
    | some removed =>
      refine iff_of_false (by simp) fun refused => ?_
      cases refused with
      | notDeployed missing => exact missing (OrderedMap.mem_keys.mpr ⟨removed, found⟩)

/-- After any commands, a further command fails exactly for one of the reasons, wherever in an
upload it comes up; and one that fails leaves the registry and the cache, with all its labels and
their snapshots, exactly as they were. -/
theorem refused_changes_nothing (compileOptions : CompileOptions) (listener : ListenerSettings)
    (maxExtracted : Nat) (commands : List Command) (command : Command) :
    let deployer := (new compileOptions listener maxExtracted).run commands
    ((∃ fault, (deployer.perform command).2 = .error fault) ↔ deployer.Refuses command) ∧
      ∀ fault, (deployer.perform command).2 = .error fault →
        (deployer.perform command).1 = deployer := by
  intro deployer
  -- No two deployed APIs share a key, as after any commands.
  have sound : deployer.Sound := sound_run compileOptions listener maxExtracted commands
  exact ⟨perform_fails_iff sound.apart command, fun fault failed => perform_of_fails failed⟩

/-- An upload of two APIs, the first of which compiles, fails at the second, and the pet store stays
the only API. -/
theorem refused_changes_nothing_mixedStore :
    let deployer := (new {} ⟨"default", "0.0.0.0", 9090, none⟩ 0).run
      [.deploy {} "admin" [.petStore]]
    let command := Command.deploy {} "admin"
      [{ Descriptor.petStore with name := "toys" }, .mixedStore]
    (∃ fault, (deployer.perform command).2 = .error fault) ∧
      (deployer.perform command).1 = deployer ∧
      deployer.registry.keys = [Descriptor.petStore.id] := by
  intro deployer command
  obtain ⟨reasons, keeps⟩ := refused_changes_nothing {} ⟨"default", "0.0.0.0", 9090, none⟩ 0
    [.deploy {} "admin" [.petStore]] command
  -- The second API is refused for its backends.
  have mixed : compile deployer.compileOptions .mixedStore =
      .error (.mixedTls "cluster_production_mixed_v1") := by decide +kernel
  have refused : deployer.Refuses command :=
    .mixedTls (List.mem_cons_of_mem _ List.mem_cons_self) mixed
  obtain ⟨fault, failed⟩ := reasons.mpr refused
  exact ⟨⟨fault, failed⟩, keeps fault failed, by decide +kernel⟩

end Deployer

end ControlPlane
