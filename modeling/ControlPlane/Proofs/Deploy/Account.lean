import Mathlib.Data.List.Nodup
import ControlPlane.Archive.Writer
import ControlPlane.Proofs.Deploy.Refusal
import ControlPlane.Proofs.Document.Outline

/-! An upload accounts for every API that its documents describe: each is deployed or left out, and
nothing else in the registry changes. -/

namespace ControlPlane

namespace Deploy

variable {compileOptions : CompileOptions} {registry : Registry} {options : DeployOptions}
  {caller : String} {apis : List Descriptor} {staged : List Staged}

/-- The deployment that an API becomes, if it compiles. -/
def deploymentOf (compileOptions : CompileOptions) (registry : Registry) (options : DeployOptions)
    (caller : String) (api : Descriptor) : Option Deployment :=
  match compile compileOptions api with
  | .ok compiled =>
    let known := (registry.get? api.id).bind fun deployment => deployment.api.provider
    some ⟨{ api with provider := providerOf options api.provider known caller }, compiled⟩
  | .error _ => none

/-- The entry in the report of an API that is deployed, if it compiles. -/
def deployedAs (compileOptions : CompileOptions) (api : Descriptor) : Option Deployed :=
  match compile compileOptions api with
  | .ok _ => some ⟨api.id, api.labels⟩
  | .error _ => none

/-- The entry in the report of an API that is left out, if it does not compile. -/
def leftOut (compileOptions : CompileOptions) (api : Descriptor) : Option Skipped :=
  match compile compileOptions api with
  | .ok _ => none
  | .error fault => some ⟨api.id, fault.message⟩

/-- An API that is staged becomes a deployment, or it is left out as one that compiles to something
incomplete. -/
theorem stage_cases {api : Descriptor} {result : Staged}
    (done : stage compileOptions registry options caller api = .ok result) :
    (∃ deployment, result = .compiled deployment ∧ leftOut compileOptions api = none ∧
      deploymentOf compileOptions registry options caller api = some deployment) ∨
    ∃ skipped fault owner, result = .skipped skipped ∧ leftOut compileOptions api = some skipped ∧
      deploymentOf compileOptions registry options caller api = none ∧
      compile compileOptions api = .error fault ∧
      fault.toError = .compilation owner fault.message := by
  -- The provider is set before compiling, which does not look at it.
  unfold stage at done
  dsimp only at done
  rw [compile_provider] at done
  unfold leftOut deploymentOf
  cases outcome : compile compileOptions api with
  | ok compiled =>
    rw [outcome] at done
    cases done
    exact Or.inl ⟨_, rfl, rfl, rfl⟩
  | error fault =>
    rw [outcome] at done
    cases fault with
    -- An API whose backends disagree refuses the whole upload, so it is not staged.
    | mixedTls cluster => cases done
    | noBackends owner method path =>
      -- An API without backends for an operation is left out, with the fault's own words.
      cases done
      exact Or.inr ⟨_, .noBackends owner method path, owner.text, rfl, rfl, rfl, rfl, rfl⟩

/-- An API that compiles becomes a deployment with its provider. -/
theorem deploymentOf_of_compile {api : Descriptor} {compiled : Compiled}
    (outcome : compile compileOptions api = .ok compiled) :
    let known := (registry.get? api.id).bind fun deployment => deployment.api.provider
    deploymentOf compileOptions registry options caller api =
      some ⟨{ api with provider := providerOf options api.provider known caller }, compiled⟩ := by
  simp only [deploymentOf, outcome]

/-- The deployments of an upload are those of its APIs that compile, in their order. -/
theorem deployments_eq
    (done : apis.mapM (stage compileOptions registry options caller) = .ok staged) :
    deployments staged = apis.filterMap (deploymentOf compileOptions registry options caller) := by
  -- Each API gives what its staging gives, so the two lists come of one pass.
  refine filterMap_of_mapM (fun api result made => ?_) done
  rcases stage_cases made with ⟨deployment, rfl, _, made⟩ | ⟨skipped, _, _, rfl, _, made, _⟩
  · exact made.symm
  · exact made.symm

/-- What is left out of an upload are its APIs that do not compile, in their order. -/
theorem skipped_eq
    (done : apis.mapM (stage compileOptions registry options caller) = .ok staged) :
    (report staged).skipped = apis.filterMap (leftOut compileOptions) := by
  -- The reason in the report is the one that staging has noted.
  refine filterMap_of_mapM (fun api result made => ?_) done
  rcases stage_cases made with ⟨deployment, rfl, left, _⟩ | ⟨skipped, _, _, rfl, left, _⟩
  · exact left.symm
  · exact left.symm

/-- What is registered under an identity stays when deployments of other APIs are registered. -/
theorem get?_register_of_notMem {deployments : List Deployment} {registry : Registry}
    {touched : OrderedSet Label} {id : ApiId}
    (other : id ∉ deployments.map fun deployment => deployment.api.id) :
    (register registry touched deployments).1.get? id = registry.get? id := by
  -- The induction is on the deployments, for any registry that the first ones have left.
  induction deployments generalizing registry touched with
  | nil => rfl
  | cons first rest ih =>
    rw [List.map_cons, List.mem_cons, not_or] at other
    refine (ih other.2).trans ?_
    -- The first deployment is of another API, and so are the rest.
    rw [OrderedMap.get?_insert, if_neg (Ne.symm other.1)]

/-- A deployment is registered under its identity, if no other one has it. -/
theorem get?_register_of_mem {deployments : List Deployment} {registry : Registry}
    {touched : OrderedSet Label} {deployment : Deployment}
    (distinct : (deployments.map fun deployment => deployment.api.id).Nodup)
    (member : deployment ∈ deployments) :
    (register registry touched deployments).1.get? deployment.api.id = some deployment := by
  -- The induction is on the deployments, for any registry that the first ones have left.
  induction deployments generalizing registry touched with
  | nil => exact absurd member List.not_mem_nil
  | cons first rest ih =>
    obtain ⟨once, distinct⟩ := List.nodup_cons.mp distinct
    rcases List.mem_cons.mp member with rfl | later
    · -- The rest does not have the identity, so it stays.
      refine (get?_register_of_notMem once).trans ?_
      rw [OrderedMap.get?_insert, if_pos rfl]
    · exact ih distinct later

/-- A registry grows by the deployments of APIs that it did not have. -/
theorem length_keys_register {deployments : List Deployment} {registry : Registry}
    {touched : OrderedSet Label}
    (distinct : (deployments.map fun deployment => deployment.api.id).Nodup)
    (fresh : ∀ deployment ∈ deployments, registry.get? deployment.api.id = none) :
    (register registry touched deployments).1.keys.length =
      registry.keys.length + deployments.length := by
  -- Each deployment adds one key, as it finds itself not registered.
  induction deployments generalizing registry touched with
  | nil => rfl
  | cons first rest ih =>
    obtain ⟨once, distinct⟩ := List.nodup_cons.mp distinct
    -- With the first API registered, the others are still not.
    have others : ∀ deployment ∈ rest,
        (OrderedMap.insert registry first.api.id first).get? deployment.api.id = none := by
      intro deployment member
      have apart : first.api.id ≠ deployment.api.id := fun same =>
        once (List.mem_map.mpr ⟨deployment, member, same.symm⟩)
      rw [OrderedMap.get?_insert, if_neg apart]
      exact fresh deployment (List.mem_cons_of_mem _ member)
    have one := (OrderedMap.perm_keys_insert (fresh first List.mem_cons_self) first).length_eq
    refine (ih distinct others).trans ?_
    rw [one, List.length_cons, List.length_cons]
    omega

/-- What is deployed of an upload are its APIs that compile, in their order. -/
theorem deployed_eq
    (done : apis.mapM (stage compileOptions registry options caller) = .ok staged) :
    (report staged).deployed = apis.filterMap (deployedAs compileOptions) := by
  show (deployments staged).map _ = _
  -- The report names the deployments, and both are made of the APIs that compile.
  rw [deployments_eq done, List.map_filterMap]
  congr 1
  funext api
  unfold deploymentOf deployedAs
  cases compile compileOptions api <;> rfl

/-- An API is left out just if it is not deployed. -/
theorem isSome_leftOut (compileOptions : CompileOptions) (api : Descriptor) :
    (leftOut compileOptions api).isSome = !(deployedAs compileOptions api).isSome := by
  -- Both look at nothing but whether the API compiles.
  unfold leftOut deployedAs
  cases compile compileOptions api <;> rfl

/-- An API that is staged is left out just if it compiles to something incomplete. -/
theorem isSome_leftOut_iff {api : Descriptor} {result : Staged}
    (done : stage compileOptions registry options caller api = .ok result) :
    (leftOut compileOptions api).isSome = true ↔
      ∃ fault owner message, compile compileOptions api = .error fault ∧
        fault.toError = .compilation owner message := by
  rcases stage_cases done with ⟨_, _, left, _⟩ | ⟨_, fault, owner, _, left, _, failed, same⟩
  · -- What becomes a deployment compiles.
    rw [left]
    refine iff_of_false (by simp) ?_
    rintro ⟨fault, _, _, failed, _⟩
    simp [leftOut, failed] at left
  · -- What is left out has its fault, and the fault says what is missing.
    rw [left]
    exact iff_of_true rfl ⟨fault, owner, fault.message, failed, same⟩

/-- As many APIs are deployed and left out as there are. -/
theorem length_deployed_add_skipped (compileOptions : CompileOptions) (apis : List Descriptor) :
    (apis.filterMap (deployedAs compileOptions)).length +
      (apis.filterMap (leftOut compileOptions)).length = apis.length := by
  -- The induction is on the APIs, each of which makes one of the two lists longer.
  induction apis with
  | nil => rfl
  | cons api rest ih =>
    -- The first API is in one of the two lists and not in the other.
    have either := isSome_leftOut compileOptions api
    rw [List.length_cons]
    cases made : deployedAs compileOptions api with
    | none =>
      rw [made] at either
      obtain ⟨skipped, left⟩ := Option.isSome_iff_exists.mp either
      rw [List.filterMap_cons_none made, List.filterMap_cons_some left, List.length_cons]
      omega
    | some deployed =>
      rw [made] at either
      have left : leftOut compileOptions api = none := by simpa using either
      rw [List.filterMap_cons_some made, List.filterMap_cons_none left, List.length_cons]
      omega

/-- A function that keeps identities makes a part of those of an upload, in their order. -/
theorem ids_sublist {β : Type} {make : Descriptor → Option β} {idOf : β → ApiId}
    (keeps : ∀ api result, make api = some result → idOf result = api.id)
    (apis : List Descriptor) :
    ((apis.filterMap make).map idOf).Sublist (apis.map Descriptor.id) := by
  -- An API without a result is passed over, and the others come in their order.
  induction apis with
  | nil => exact .slnil
  | cons api rest ih =>
    rw [List.map_cons]
    cases made : make api with
    | none =>
      rw [List.filterMap_cons_none made]
      exact ih.cons _
    | some result =>
      rw [List.filterMap_cons_some made, List.map_cons, keeps api result made]
      exact ih.cons_cons _

/-- Of APIs with different identities, one is among the results of a function that keeps identities
just if the function has a result for it. -/
theorem mem_ids_iff {β : Type} {make : Descriptor → Option β} {idOf : β → ApiId}
    (keeps : ∀ api result, make api = some result → idOf result = api.id)
    (distinct : (apis.map Descriptor.id).Nodup) {api : Descriptor} (member : api ∈ apis) :
    api.id ∈ (apis.filterMap make).map idOf ↔ (make api).isSome = true := by
  rw [List.mem_map, Option.isSome_iff_exists]
  constructor
  · -- The API that the result was made of has the same identity, so it is the same API.
    rintro ⟨result, among, same⟩
    obtain ⟨other, inside, made⟩ := List.mem_filterMap.mp among
    have one : other = api := List.inj_on_of_nodup_map distinct inside member
      ((keeps other result made).symm.trans same)
    exact ⟨result, one ▸ made⟩
  · -- The result that is made for the API is listed, with its identity.
    rintro ⟨result, made⟩
    exact ⟨result, List.mem_filterMap.mpr ⟨api, member, made⟩, keeps api result made⟩

/-- What is deployed has the identity of its API. -/
theorem id_deployedAs (api : Descriptor) (deployed : Deployed)
    (made : deployedAs compileOptions api = some deployed) : deployed.id = api.id := by
  unfold deployedAs at made
  split at made <;> cases made
  rfl

/-- What is left out has the identity of its API. -/
theorem id_leftOut (api : Descriptor) (skipped : Skipped)
    (made : leftOut compileOptions api = some skipped) : skipped.id = api.id := by
  unfold leftOut at made
  split at made <;> cases made
  rfl

/-- A deployment has the identity of its API. -/
theorem id_deploymentOf (api : Descriptor) (deployment : Deployment)
    (made : deploymentOf compileOptions registry options caller api = some deployment) :
    deployment.api.id = api.id := by
  unfold deploymentOf at made
  split at made <;> cases made
  rfl

/-- A bundle whose documents describe different APIs gives them. -/
theorem readBundle_of_contents {limit : Nat} {archive : ByteArray} {contents : List ByteArray}
    (given : (Bundle.read limit archive).map (List.map Bundle.Document.contents) = .ok contents)
    (normal : contents.mapM Document.normalize = .ok apis)
    (distinct : (apis.map Descriptor.id).Nodup) : readBundle limit archive = .ok apis := by
  -- The documents are described one after the other, and none claims the identity of another.
  obtain ⟨documents, read, rfl⟩ := exists_of_map_eq_ok given
  rw [List.mapM_map] at normal
  have described : describeAll .empty documents = .ok apis :=
    describeAll_eq_ok_iff.mpr ⟨normal, distinct, fun _ _ known => by cases known⟩
  unfold readBundle
  rw [read]
  exact described

/-- Whether a report accounts for all APIs of an upload, and a registry has changed accordingly. -/
structure Accounts (compileOptions : CompileOptions) (options : DeployOptions) (caller : String)
    (apis : List Descriptor) (report : Report) (before after : Registry) : Prop where
  /-- What compiles is deployed with its labels, in the order of the upload. -/
  deployed : report.deployed = apis.filterMap (deployedAs compileOptions)
  /-- What does not compile is left out with the reason, in the order of the upload. -/
  skipped : report.skipped = apis.filterMap (leftOut compileOptions)
  /-- Every API is deployed or left out, and none is both. -/
  once : ∀ api ∈ apis, api.id ∈ report.deployed.map Deployed.id ↔
    api.id ∉ report.skipped.map Skipped.id
  /-- An API is left out just if it compiles to something incomplete. -/
  incomplete : ∀ api ∈ apis, api.id ∈ report.skipped.map Skipped.id ↔
    ∃ fault owner message, compile compileOptions api = .error fault ∧
      fault.toError = .compilation owner message
  /-- What is deployed is registered with what it compiles to, and with its provider. -/
  registered : ∀ api ∈ apis, ∀ compiled, compile compileOptions api = .ok compiled →
    after.get? api.id = some
      ⟨{ api with provider :=
          if options.preserveProvider then
            api.provider.or ((before.get? api.id).bind fun previous => previous.api.provider)
          else some caller }, compiled⟩
  /-- Everything else stays as it was. -/
  kept : ∀ id, id ∉ report.deployed.map Deployed.id → after.get? id = before.get? id
  /-- Unless APIs may be replaced nothing that is deployed was there before. -/
  fresh : options.overwrite = false →
    (∀ id ∈ report.deployed.map Deployed.id, before.get? id = none) ∧
      after.keys.length = before.keys.length + report.deployed.length

end Deploy

namespace Deployer

variable {deployer : Deployer} {options : DeployOptions} {caller : String}
  {apis : List Descriptor} {staged : List Deploy.Staged}

/-- Unless APIs may be replaced none that passes the check is deployed. -/
theorem get?_of_checkNew (new : deployer.checkNew options apis = .ok ())
    (keeps : options.overwrite = false) {id : ApiId} (member : id ∈ apis.map Descriptor.id) :
    deployer.registry.get? id = none := by
  obtain ⟨api, inside, rfl⟩ := List.mem_map.mp member
  -- If it were registered, the check would refuse the upload.
  cases held : deployer.registry.get? api.id with
  | none => rfl
  | some previous =>
    have refused := checkNew_fails_iff.mpr
      ⟨keeps, api, inside, OrderedMap.mem_keys.mpr ⟨previous, held⟩⟩
    obtain ⟨fault, refused⟩ := refused
    cases new.symm.trans refused

/-- What is staged and entered accounts for all APIs of an upload, each of which it has once. -/
theorem accounts_enter (distinct : (apis.map Descriptor.id).Nodup)
    (success : deployer.staging options caller apis = .ok staged) :
    Deploy.Accounts deployer.compileOptions options caller apis (Deploy.report staged)
      deployer.registry (deployer.enter (Deploy.deployments staged)).registry := by
  obtain ⟨new, _, done⟩ := of_staging_eq_ok success
  have deployed := Deploy.deployed_eq done
  have skipped := Deploy.skipped_eq done
  have deployments := Deploy.deployments_eq done
  -- The deployments have the identities that the report tells, and no two have the same.
  have ids : (Deploy.report staged).deployed.map Deployed.id =
      (Deploy.deployments staged).map fun deployment => deployment.api.id := List.map_map ..
  have part : ((Deploy.deployments staged).map fun deployment => deployment.api.id).Sublist
      (apis.map Descriptor.id) := by
    rw [deployments]
    exact Deploy.ids_sublist Deploy.id_deploymentOf apis
  have apart := part.nodup distinct
  constructor
  · exact deployed
  · exact skipped
  · -- An API is in one of the lists just if the other one has nothing for it.
    intro api member
    rw [deployed, skipped, Deploy.mem_ids_iff Deploy.id_deployedAs distinct member,
      Deploy.mem_ids_iff Deploy.id_leftOut distinct member, Deploy.isSome_leftOut]
    cases (Deploy.deployedAs deployer.compileOptions api).isSome <;> decide
  · -- The upload is staged, so each of its APIs has been, and what is left out lacks backends.
    intro api member
    obtain ⟨result, _, made⟩ := result_of_mapM done member
    rw [skipped, Deploy.mem_ids_iff Deploy.id_leftOut distinct member]
    exact Deploy.isSome_leftOut_iff made
  · -- What compiles becomes a deployment, and no other one with its identity comes after it.
    intro api member compiled outcome
    have made : Deploy.deploymentOf deployer.compileOptions deployer.registry options caller api =
        _ := Deploy.deploymentOf_of_compile outcome
    have among := List.mem_filterMap.mpr ⟨api, member, made⟩
    rw [← deployments] at among
    exact Deploy.get?_register_of_mem apart among
  · -- An identity that is not deployed is not registered anew.
    intro id other
    rw [ids] at other
    exact Deploy.get?_register_of_notMem other
  · -- Nothing that is deployed was there before, so each deployment adds a key.
    intro keeps
    have absent : ∀ id ∈ (Deploy.deployments staged).map fun deployment => deployment.api.id,
        deployer.registry.get? id = none := fun id member =>
      get?_of_checkNew new keeps (part.subset member)
    refine ⟨ids ▸ absent, ?_⟩
    have grown : (deployer.enter (Deploy.deployments staged)).registry.keys.length =
        deployer.registry.keys.length + (Deploy.deployments staged).length :=
      Deploy.length_keys_register apart fun deployment member =>
        absent _ (List.mem_map_of_mem member)
    rw [grown]
    simp [Deploy.report]

/-- A bundle that is deployed accounts for every API in its documents. -/
theorem bundle_accounts_for_each_api (deployer : Deployer) (options : DeployOptions)
    (caller : String) (archive : ByteArray) {report : Report}
    (success : (deployer.perform (.deployBundle options caller archive)).2 = .ok (some report)) :
    ∃ documents apis, Bundle.read deployer.maxExtracted archive = .ok documents ∧
      List.Forall₂ (fun document api => Document.normalize document.contents = .ok api)
        documents apis ∧
      (apis.map Descriptor.id).Nodup ∧
      report.deployed.length + report.skipped.length = documents.length ∧
      Deploy.Accounts deployer.compileOptions options caller apis report deployer.registry
        (deployer.perform (.deployBundle options caller archive)).1.registry := by
  -- An upload that succeeds has passed every stage: reading, describing and staging.
  rw [perform_deployBundle] at success ⊢
  unfold Deploy.readBundle at success ⊢
  cases read : Bundle.read deployer.maxExtracted archive with
  | error fault => rw [read] at success; cases success
  | ok documents =>
    rw [read] at success
    dsimp only at success ⊢
    cases described : Deploy.describeAll .empty documents with
    | error fault => rw [described] at success; cases success
    | ok apis =>
      rw [described] at success
      dsimp only at success ⊢
      rw [perform_deploy] at success ⊢
      cases staging : deployer.staging options caller apis with
      | error fault => rw [staging] at success; cases success
      | ok staged =>
        rw [staging] at success
        cases success
        obtain ⟨normal, distinct, _⟩ := Deploy.describeAll_eq_ok_iff.mp described
        have accounts := accounts_enter distinct staging
        have pairs := forall₂_of_mapM normal
        refine ⟨documents, apis, rfl, pairs, distinct, ?_, accounts⟩
        -- Both lists are made of the APIs, of which there are as many as documents.
        rw [accounts.deployed, accounts.skipped, pairs.length_eq]
        exact Deploy.length_deployed_add_skipped ..

end Deployer

namespace Document

/-- A text that is JSON describes the API that its value describes. -/
theorem normalize_of_parse {text : String} {value : Json} {api : Descriptor}
    (parsed : Json.parse? text = some value) (described : describe value = .ok api) :
    normalize text.toUTF8 = .ok api := by
  unfold normalize
  -- A text that is JSON is read as such, before it is tried as anything else.
  rw [decode_of_parse parsed]
  exact described

/-- The text of an API without operations. -/
def idleText : String := "\x7b\"swagger\":\"2\",\"info\":[\"idle\",\"1\"]\x7d"

/-- The text of an API with an operation that no backend serves. -/
def lostText : String :=
  "\x7b\"swagger\":\"2\",\"info\":[\"lost\",\"1\"]," ++
    "\"paths\":\x7b\"/\":\x7b\"get\":\x7b\x7d\x7d\x7d\x7d"

/-- The API without operations. -/
def idle : Descriptor :=
  { name := "idle", version := "1", basePath := "/", resources := [], production := []
    sandbox := [], labels := .default, requestTimeout := none, provider := none
    extensions := .empty }

/-- The API with an operation that no backend serves. -/
def lost : Descriptor :=
  { idle with
    name := "lost"
    resources := [
      { path := "/", method := .get, operationId := none, summary := none, production := []
        sandbox := [] }] }

/-- The first text describes the first API. -/
theorem normalize_idleText : normalize idleText.toUTF8 = .ok idle := by
  have parsed : Json.parse? idleText =
      some (.obj [("swagger", .str "2"), ("info", .arr [.str "idle", .str "1"])]) := by cbv
  exact normalize_of_parse parsed rfl

/-- The second text describes the second API. -/
theorem normalize_lostText : normalize lostText.toUTF8 = .ok lost := by
  have parsed : Json.parse? lostText =
      some (.obj [("swagger", .str "2"), ("info", .arr [.str "lost", .str "1"]),
        ("paths", .obj [("/", .obj [("get", .obj [])])])]) := by cbv
  exact normalize_of_parse parsed rfl

/-- An archive of both documents. -/
def mixedBundle : ByteArray :=
  Archive.write [⟨"idle.json", idleText.toUTF8, true⟩, ⟨"lost.json", lostText.toUTF8, true⟩]

set_option maxRecDepth 8000 in
/-- The archive of both documents gives them back. -/
theorem read_mixedBundle :
    (Bundle.read 100 mixedBundle).map (List.map Bundle.Document.contents) =
      .ok [idleText.toUTF8, lostText.toUTF8] := by decide +kernel

/-- The archive of both documents describes both APIs. -/
theorem readBundle_mixedBundle : Deploy.readBundle 100 mixedBundle = .ok [idle, lost] := by
  have normal : [idleText.toUTF8, lostText.toUTF8].mapM normalize = .ok [idle, lost] :=
    mapM_cons_eq_ok_iff.mpr ⟨idle, [lost], normalize_idleText,
      mapM_cons_eq_ok_iff.mpr ⟨lost, [], normalize_lostText, rfl, rfl⟩, rfl⟩
  exact Deploy.readBundle_of_contents read_mixedBundle normal (by decide)

end Document

namespace Deployer

set_option maxRecDepth 8000 in
/-- Of both APIs the first is deployed into an empty registry and the second is left out. -/
theorem report_of_idle_lost :
    let deployer := new {} ⟨"default", "0.0.0.0", 9090, none⟩ 100
    ((deployer.perform (.deploy {} "ada" [Document.idle, Document.lost])).2.toOption.join.map
      fun report => (report.deployed.map Deployed.id, report.skipped.map Skipped.id)) =
        some ([Document.idle.id], [Document.lost.id]) := by decide +kernel

/-- Of an archive of both documents the first one's API is registered. -/
theorem bundle_accounts_for_each_api_mixedBundle :
    let deployer := new {} ⟨"default", "0.0.0.0", 9090, none⟩ 100
    let performed := deployer.perform (.deployBundle {} "ada" Document.mixedBundle)
    ∃ report, performed.2 = .ok (some report) ∧
      report.deployed.map Deployed.id = [Document.idle.id] ∧
      report.skipped.map Skipped.id = [Document.lost.id] ∧
      performed.1.registry.keys.length = 1 := by
  -- The archive is kept closed here, as all that counts is what it describes.
  intro deployer performed
  have limit : deployer.maxExtracted = 100 := rfl
  have empty : deployer.registry.keys.length = 0 := rfl
  have told : ((deployer.perform
      (.deploy {} "ada" [Document.idle, Document.lost])).2.toOption.join.map
        fun report => (report.deployed.map Deployed.id, report.skipped.map Skipped.id)) =
          some ([Document.idle.id], [Document.lost.id]) := report_of_idle_lost
  have bundle : deployer.perform (.deployBundle {} "ada" Document.mixedBundle) = performed := rfl
  clear_value performed deployer
  -- The upload does what a deployment of both APIs does.
  have same := perform_deployBundle deployer {} "ada" Document.mixedBundle
  rw [limit, Document.readBundle_mixedBundle] at same
  dsimp only at same
  rw [← same, bundle] at told
  -- A report that tells something is that of a success.
  cases success : performed.2 with
  | error fault => rw [success] at told; cases told
  | ok told? =>
    cases told? with
    | none => rw [success] at told; cases told
    | some report =>
      rw [success] at told
      obtain ⟨deployed, skipped⟩ := Prod.mk.inj (Option.some.inj told)
      obtain ⟨_, _, _, _, _, _, accounts⟩ :=
        bundle_accounts_for_each_api deployer {} "ada" Document.mixedBundle (bundle ▸ success)
      -- The report accounts for the upload, so the registry has grown by what is deployed.
      have grown := (accounts.fresh rfl).2
      have one : report.deployed.length = 1 := by
        rw [← List.length_map, deployed]
        rfl
      rw [bundle, empty, one] at grown
      exact ⟨report, rfl, deployed, skipped, grown⟩

end Deployer

end ControlPlane
