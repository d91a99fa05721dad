import ControlPlane.Deploy.Bundle
import ControlPlane.Deploy.Registry
import ControlPlane.Discovery.Cache
import ControlPlane.Document.Normalize
import ControlPlane.Text.Casing

/-! Deploying and deleting APIs: each change publishes every label that it touches anew. -/

namespace ControlPlane

/-- An API that was deployed. -/
structure Deployed where
  id : ApiId
  labels : Labels

/-- An API that was left out, and why. -/
structure Skipped where
  id : ApiId
  reason : String
deriving DecidableEq, Repr

/-- What became of the APIs of an upload. -/
structure Report where
  deployed : List Deployed
  skipped : List Skipped

/-- What a client may ask for with an upload. -/
structure DeployOptions where
  /-- Whether APIs that are deployed already are replaced. -/
  overwrite : Bool := false
  /-- Whether the provider that is declared or known stays, rather than the caller taking its place. -/
  preserveProvider : Bool := false
deriving DecidableEq, Repr

namespace Deploy

/-- Why APIs are not deployed or deleted. -/
inductive Fault where
  | bundle (fault : Bundle.Fault)
  /-- A document of a bundle is malformed. -/
  | document (name : String) (fault : Document.Fault)
  /-- A document of a bundle describes the same API as one before it. -/
  | repeated (id : ApiId) (name : String)
  | alreadyDeployed (id : ApiId)
  /-- The names of an API's resources would be those of another one. -/
  | sameNames (id : ApiId) (key : String) (owner : ApiId)
  | compile (fault : Compile.Fault)
  | notDeployed (id : ApiId)

/-- The words for an API in messages. -/
def described (id : ApiId) : String := "API '" ++ id.name ++ "' version '" ++ id.version ++ "'"

/-- A failure in a document, with the document's name before its message and for want of a field. -/
def inDocument (name : String) : Error → Error
  | .inputFormat message field => .inputFormat (name ++ ": " ++ message) (field.or (some name))
  | other => other

/-- A fault of deployment as a failure of the control plane, if it is reported at all. -/
def Fault.toError : Fault → Option Error
  | .bundle fault => fault.toError
  | .document name fault => some (inDocument name fault.toError)
  | .repeated id name =>
    some (.inputAt name (described id ++ " appears more than once in the bundle"))
  | .alreadyDeployed id => some (.conflict (described id ++ " is already deployed"))
  | .sameNames id key owner =>
    some (.conflict (described id ++ " maps to the same resource names (" ++ key ++ ") as " ++
      described owner))
  | .compile fault => some fault.toError
  | .notDeployed id => some (.notFound (described id ++ " is not deployed"))

/-- The descriptions in the documents of a bundle, given the APIs described before. -/
def describeAll : (seen : OrderedSet ApiId) → List Bundle.Document → Except Fault (List Descriptor)
  | _, [] => .ok []
  | seen, document :: rest =>
    match Document.normalize document.contents with
    | .error fault => .error (.document document.name fault)
    | .ok api =>
      if api.id ∈ seen then .error (.repeated api.id document.name)
      else (describeAll (seen.insert api.id) rest).map (api :: ·)

/-- The descriptions in the bytes of a bundle. -/
def readBundle (limit : Nat) (archive : ByteArray) : Except Fault (List Descriptor) :=
  match Bundle.read limit archive with
  | .error fault => .error (.bundle fault)
  | .ok documents => describeAll .empty documents

/-- Refuses an API whose resources would have the names of another one's. -/
def claimNames : Registry.Owners → List Descriptor → Except Fault Unit
  | _, [] => .ok ()
  | owners, api :: rest =>
    let key := Naming.apiKey api.id
    match owners.get? key with
    | some owner =>
      if owner = api.id then claimNames (owners.insert key api.id) rest
      else .error (.sameNames api.id key owner)
    | none => claimNames (owners.insert key api.id) rest

/-- The provider of an API: the one declared or known before, if that is to stay, or the caller. -/
def providerOf (options : DeployOptions) (declared known : Option String) (caller : String) :
    Option String :=
  if options.preserveProvider then declared.or known else some caller

/-- What staging has made of an API. -/
inductive Staged where
  | compiled (deployment : Deployment)
  | skipped (skipped : Skipped)

/-- Compiles an API with its provider; one that has a resource without backends is left out. -/
def stage (compileOptions : CompileOptions) (registry : Registry) (options : DeployOptions)
    (caller : String) (api : Descriptor) : Except Fault Staged :=
  let known := (registry.get? api.id).bind fun deployment => deployment.api.provider
  let api := { api with provider := providerOf options api.provider known caller }
  match compile compileOptions api with
  | .ok compiled => .ok (.compiled ⟨api, compiled⟩)
  | .error (.mixedTls cluster) => .error (.compile (.mixedTls cluster))
  | .error fault => .ok (.skipped ⟨api.id, fault.message⟩)

/-- The deployments among what staging has made. -/
def deployments (staged : List Staged) : List Deployment :=
  staged.filterMap fun
    | .compiled deployment => some deployment
    | .skipped _ => none

/-- The report on what staging has made. -/
def report (staged : List Staged) : Report :=
  { deployed := (deployments staged).map fun deployment => ⟨deployment.api.id, deployment.api.labels⟩
    skipped := staged.filterMap fun
      | .compiled _ => none
      | .skipped skipped => some skipped }

/-- Registers deployments one after the other, and collects the labels that they carry and that
those in whose place they come carried. -/
def register : Registry → OrderedSet Label → List Deployment → Registry × OrderedSet Label
  | registry, touched, [] => (registry, touched)
  | registry, touched, deployment :: rest =>
    let id := deployment.api.id
    let before := ((registry.get? id).map fun previous => previous.api.labels.set).getD .empty
    register (registry.insert id deployment)
      ((touched.union deployment.api.labels.set).union before) rest

end Deploy

/-- The registry and the cache that is kept in step with it. -/
structure Deployer where
  compileOptions : CompileOptions
  listener : ListenerSettings
  /-- The greatest size of the documents in a bundle, unpacked. -/
  maxExtracted : Nat
  registry : Registry := .empty
  cache : Cache := .empty

namespace Deployer

/-- Publishes labels one after the other, each from the whole registry. -/
def republish (deployer : Deployer) (labels : List Label) : Deployer :=
  { deployer with cache := labels.foldl (fun cache label =>
      cache.publish label (deployer.registry.resources deployer.listener label)) deployer.cache }

/-- Refuses APIs that are deployed already, unless they are to be replaced. -/
def checkNew (deployer : Deployer) (options : DeployOptions) (apis : List Descriptor) :
    Except Deploy.Fault Unit :=
  if options.overwrite then .ok ()
  else match apis.find? fun api => deployer.registry.has api.id with
    | some api => .error (.alreadyDeployed api.id)
    | none => .ok ()

/-- Registers deployments, and publishes every label that is touched. -/
def enter (deployer : Deployer) (deployments : List Deployment) : Deployer :=
  let (registry, touched) := Deploy.register deployer.registry .empty deployments
  { deployer with registry }.republish touched.items

/-- Work on a deployer, which may break off; what it changed before that stays changed. -/
abbrev Work : Type → Type := EStateM Deploy.Fault Deployer

/-- Goes on with the result of a computation, or breaks off with its fault. -/
def Work.ofExcept {α : Type} : Except Deploy.Fault α → Work α
  | .ok result => pure result
  | .error fault => throw fault

/-- Deploys APIs: all of them but those that do not compile, or none of them. -/
def deploy (options : DeployOptions) (caller : String) (apis : List Descriptor) :
    Work Report := do
  let deployer ← get
  Work.ofExcept (deployer.checkNew options apis)
  Work.ofExcept (Deploy.claimNames deployer.registry.owners apis)
  let staged ← apis.mapM fun api => Work.ofExcept
    (Deploy.stage deployer.compileOptions deployer.registry options caller api)
  modify (·.enter (Deploy.deployments staged))
  return Deploy.report staged

/-- Deploys the APIs that the documents of a bundle describe. -/
def deployBundle (options : DeployOptions) (caller : String) (archive : ByteArray) :
    Work Report := do
  let deployer ← get
  let apis ← Work.ofExcept (Deploy.readBundle deployer.maxExtracted archive)
  deploy options caller apis

/-- Takes an API out of the registry, and tells what was there. -/
def remove (id : ApiId) : Work (Option Deployment) :=
  modifyGet fun deployer =>
    (deployer.registry.get? id, { deployer with registry := deployer.registry.erase id })

/-- Deletes an API, and publishes every label that it carried. -/
def delete (id : ApiId) : Work Unit := do
  match ← remove id with
  | none => throw (.notDeployed id)
  | some removed => modify (·.republish removed.api.labels.toList)

/-- The deployed APIs whose names contain a text in any case, at most so many. -/
def list (deployer : Deployer) (query : Option String) (limit : Option Nat) : List Descriptor :=
  let needle := ((query.map Text.toLower).getD "").toList
  let found := (deployer.registry.values.map Deployment.api).filter fun api =>
    Text.hasWord needle (Text.toLower api.name).toList
  match limit with
  | some n => found.take n
  | none => found

/-- What may be asked of a deployer. -/
inductive Command where
  | deploy (options : DeployOptions) (caller : String) (apis : List Descriptor)
  | deployBundle (options : DeployOptions) (caller : String) (archive : ByteArray)
  | delete (id : ApiId)

/-- What a command does: a deployment reports on the APIs. -/
def work : Command → Work (Option Report)
  | .deploy options caller apis => some <$> deploy options caller apis
  | .deployBundle options caller archive => some <$> deployBundle options caller archive
  | .delete id => (fun _ => none) <$> delete id

/-- Carries out a command, as far as it goes. -/
def perform (deployer : Deployer) (command : Command) :
    Deployer × Except Deploy.Fault (Option Report) :=
  match (work command).run deployer with
  | .ok report next => (next, .ok report)
  | .error fault after => (after, .error fault)

/-- A deployer with nothing deployed. -/
def new (compileOptions : CompileOptions) (listener : ListenerSettings) (maxExtracted : Nat) :
    Deployer :=
  { compileOptions, listener, maxExtracted }

/-- The state after commands, one after the other, whether they succeed or fail. -/
def run (deployer : Deployer) (commands : List Command) : Deployer :=
  commands.foldl (fun deployer command => (deployer.perform command).1) deployer

end Deployer

end ControlPlane
