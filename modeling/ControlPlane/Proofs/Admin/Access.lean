import ControlPlane.Admin.Interface
import ControlPlane.Proofs.Deploy.Account

/-! Who may use the administrative interface: a request that is not verified to come from the
administrator neither changes what is deployed nor shows anything of it. -/

namespace ControlPlane

namespace Deployer

/-- What is registered after an upload was registered before, or is an API of the upload with the
provider that the options give it. -/
theorem get?_perform_deployBundle {deployer : Deployer} {options : DeployOptions} {caller : String}
    {archive : ByteArray} {id : ApiId} {deployment : Deployment}
    (found : (deployer.perform (.deployBundle options caller archive)).1.registry.get? id =
      some deployment) :
    deployer.registry.get? id = some deployment ∨
      ∃ apis, Deploy.readBundle deployer.maxExtracted archive = .ok apis ∧ ∃ api ∈ apis,
        api.id = id ∧ deployment.api.provider = Deploy.providerOf options api.provider
          ((deployer.registry.get? id).bind fun known => known.api.provider) caller := by
  -- The upload is taken apart as it is carried out: the archive is read, then everything is staged,
  -- then all of it is registered.
  rw [perform_deployBundle] at found
  cases outcome : Deploy.readBundle deployer.maxExtracted archive with
  | error fault =>
    rw [outcome] at found
    -- An archive that cannot be read changes nothing, so the deployment was there before.
    exact Or.inl found
  | ok apis =>
    rw [outcome] at found
    dsimp only at found
    rw [perform_deploy] at found
    cases success : deployer.staging options caller apis with
    | error fault =>
      rw [success] at found
      exact Or.inl found
    | ok staged =>
      rw [success] at found
      rcases Deploy.get?_register found with before | ⟨among, own⟩
      · exact Or.inl before
      · -- What is new was staged, with a provider that depends on what was registered before.
        obtain ⟨_, _, done⟩ := of_staging_eq_ok success
        rw [Deploy.deployments_eq done] at among
        obtain ⟨api, listed, made⟩ := List.mem_filterMap.mp among
        unfold Deploy.deploymentOf at made
        split at made
        · -- An API that was skipped gives no deployment.
          cases made
          subst own
          exact Or.inr ⟨apis, rfl, api, listed, rfl, rfl⟩
        · cases made

end Deployer

namespace Admin

open Http (Request)

/-- The name that a request is verified to come from: it has the header, the header holds
credentials, and the administrator accepts them. -/
def Administrator.verified? (administrator : Administrator) (request : Request) : Option String :=
  match request.authorization with
  | none => none
  | some header =>
    match Credentials.ofHeader? header with
    | none => none
    | some credentials => if administrator.accepts credentials then some credentials.user else none

/-- The APIs are at one path. -/
theorem Place.eq_of_ofPath? {path : String} (found : Place.ofPath? path = some .apis) :
    path = "/apis" := by
  -- The other two branches give the place of the program's health and no place.
  unfold Place.ofPath? at found
  split at found
  · cases found
  · rfl
  · cases found

/-- Only one method uploads. -/
theorem Action.eq_post_of_ofMethod? {method : String}
    (chosen : Action.ofMethod? method = some .upload) : method = "POST" := by
  unfold Action.ofMethod? at chosen
  split at chosen <;> simp_all

/-- Only one method deletes. -/
theorem Action.eq_delete_of_ofMethod? {method : String}
    (chosen : Action.ofMethod? method = some .delete) : method = "DELETE" := by
  unfold Action.ofMethod? at chosen
  split at chosen <;> simp_all

namespace Interface

/-- The requests that come one after the other with their answers, as far as they get one, and the
deployer after them. -/
def serve (interface : Interface) (deployer : Deployer) :
    List Request → List (Request × Option Reply) × Deployer
  | [] => ([], deployer)
  | request :: rest =>
    let (reply, next) := interface.handle deployer request
    let (answered, last) := interface.serve next rest
    ((request, reply) :: answered, last)

/-- The commands that a request can bring from a user: what it uploads in the name of the user, or
what it names for deletion. -/
inductive Asks (interface : Interface) (request : Request) (user : String) :
    Deployer.Command → Prop where
  | upload {options : DeployOptions} {bundle : ByteArray} (method : request.method = "POST")
    (read : interface.readUploadRequest request (.parse request.target.query) =
      .ok (options, bundle)) :
    Asks interface request user (.deployBundle options user bundle)
  | delete {id : ApiId} (method : request.method = "DELETE")
    (read : readId (.parse request.target.query) = .ok id) :
    Asks interface request user (.delete id)

variable {interface : Interface} {deployer : Deployer} {request : Request} {user : String}
  {action : Action}

/-- Whoever authenticates is verified under the name that counts from then on. -/
theorem verified_of_authenticate (success : interface.authenticate request = .ok user) :
    interface.administrator.verified? request = some user := by
  -- Both look for the header, for credentials in it and for whether they are accepted, in this
  -- order.
  unfold authenticate at success
  unfold Administrator.verified?
  cases given : request.authorization with
  | none => rw [given] at success; cases success
  | some header =>
    rw [given, Option.bind_some] at success
    cases read : Credentials.ofHeader? header with
    | none => rw [read] at success; cases success
    | some credentials =>
      rw [read] at success
      dsimp only at success ⊢
      rw [read]
      by_cases accepted : interface.administrator.accepts credentials = true
      · rw [if_pos accepted] at success
        -- The name is that of the credentials on both sides.
        exact (if_pos accepted).trans (congrArg Option.some (Except.ok.inj success))
      · rw [if_neg accepted] at success
        simp at success

/-- Only requests to the APIs are permitted, and only after authentication. -/
theorem of_permit_eq_ok (permitted : interface.permit request = .ok (user, action)) :
    request.target.path = "/apis" ∧ interface.administrator.verified? request = some user ∧
      Action.ofMethod? request.method = some action := by
  -- The layers are met from the outside: the path, the declared length, the sender, the method.
  unfold permit at permitted
  cases found : Place.ofPath? request.target.path with
  | none =>
    -- There is nothing at the path, whether the request is too long or not.
    rw [found] at permitted
    dsimp only at permitted
    by_cases long : request.declaredLength.any (interface.maxUpload < ·) = true
    · rw [if_pos long] at permitted
      simp at permitted
    · rw [if_neg long] at permitted
      simp at permitted
  | some place =>
    rw [found] at permitted
    cases place with
    | health =>
      -- What is asked of the program's health never goes on to the APIs.
      dsimp only at permitted
      by_cases has : Place.health.methods.contains request.method = true
      · rw [if_pos has] at permitted
        simp at permitted
      · rw [if_neg has] at permitted
        simp at permitted
    | apis =>
      dsimp only at permitted
      by_cases long : request.declaredLength.any (interface.maxUpload < ·) = true
      · rw [if_pos long] at permitted
        simp at permitted
      · -- The request is short enough, so the sender and then the method are looked at.
        rw [if_neg long, if_neg (by simp)] at permitted
        cases outcome : interface.authenticate request with
        | error reply =>
          rw [outcome] at permitted
          simp at permitted
        | ok name =>
          cases chosen : Action.ofMethod? request.method with
          | none =>
            rw [outcome, chosen] at permitted
            simp at permitted
          | some other =>
            rw [outcome, chosen] at permitted
            simp only [Except.ok.injEq, Prod.mk.injEq] at permitted
            obtain ⟨rfl, rfl⟩ := permitted
            exact ⟨Place.eq_of_ofPath? found, verified_of_authenticate outcome, rfl⟩

/-- A request that is not verified is not permitted. -/
theorem permit_eq_error (unverified : interface.administrator.verified? request = none) :
    ∃ reply, interface.permit request = .error reply := by
  -- Were it permitted, it would have passed the sender's check.
  cases outcome : interface.permit request with
  | error reply => exact ⟨reply, rfl⟩
  | ok permitted =>
    obtain ⟨_, _⟩ := permitted
    obtain ⟨_, verified, _⟩ := of_permit_eq_ok outcome
    rw [unverified] at verified
    cases verified

/-- A request that is not permitted gets one answer from all deployers, and changes none. -/
theorem handle_of_permit_eq_error {reply : Reply}
    (refused : interface.permit request = .error reply) :
    ∃ sent, ∀ deployer, interface.handle deployer request = (some sent, deployer) := by
  -- The answer is made of the refusal and of the request, and the deployer is not looked at.
  unfold handle respond
  rw [refused]
  exact ⟨_, fun _ => rfl⟩

/-- A permitted request leaves the deployer as it is, or has it carry out what it asks for, whatever
is answered. -/
theorem handle_of_permit_eq_ok (permitted : interface.permit request = .ok (user, action)) :
    (interface.handle deployer request).2 = deployer ∨
      ∃ command, interface.Asks request user command ∧
        (interface.handle deployer request).2 = (deployer.perform command).1 := by
  obtain ⟨_, _, chosen⟩ := of_permit_eq_ok permitted
  -- The answer does not decide what becomes of the deployer.
  have made : (interface.handle deployer request).2 =
      (interface.act deployer user request action).2 := by
    unfold handle respond
    rw [permitted]
    dsimp only
    rcases interface.act deployer user request action with ⟨none | ⟨answer | answer⟩, next⟩ <;> rfl
  rw [made]
  cases action with
  | list => exact Or.inl rfl
  | upload =>
    unfold act upload
    dsimp only
    cases read : interface.readUploadRequest request (.parse request.target.query) with
    -- An upload whose options or body cannot be read is refused before any work.
    | error problem => exact Or.inl rfl
    | ok asked =>
      obtain ⟨options, bundle⟩ := asked
      refine Or.inr ⟨_, .upload (Action.eq_post_of_ofMethod? chosen) read, ?_⟩
      -- The state after the work does not depend on the report on it.
      unfold Deployer.perform Deployer.work
      rw [Deployer.Work.run_map]
      dsimp only
      cases (Deployer.deployBundle options user bundle).run deployer <;> rfl
  | delete =>
    unfold act delete
    dsimp only
    cases read : readId (.parse request.target.query) with
    | error problem => exact Or.inl rfl
    | ok id =>
      refine Or.inr ⟨_, .delete (Action.eq_delete_of_ofMethod? chosen) read, ?_⟩
      -- As for an upload, only the report is changed behind the work.
      unfold Deployer.perform Deployer.work
      rw [Deployer.Work.run_map]
      dsimp only
      cases (Deployer.delete id).run deployer <;> rfl

/-- A request that is not verified gets one answer from all deployers, and changes none. -/
theorem handle_of_unverified (unverified : interface.administrator.verified? request = none) :
    ∃ reply, ∀ deployer, interface.handle deployer request = (some reply, deployer) := by
  -- What is not verified is not permitted, and what is not permitted is answered alike everywhere.
  obtain ⟨_, refused⟩ := permit_eq_error unverified
  exact handle_of_permit_eq_error refused

/-- A request that changes the deployer is verified, goes to the APIs, and has the deployer carry
out what it asks for. -/
theorem handle_cases (interface : Interface) (deployer : Deployer) (request : Request) :
    (interface.handle deployer request).2 = deployer ∨
      ∃ user command, interface.administrator.verified? request = some user ∧
        request.target.path = "/apis" ∧ interface.Asks request user command ∧
        (interface.handle deployer request).2 = (deployer.perform command).1 := by
  -- Only what is permitted reaches the deployer.
  cases outcome : interface.permit request with
  | error reply =>
    obtain ⟨_, handled⟩ := handle_of_permit_eq_error outcome
    rw [handled]
    exact Or.inl rfl
  | ok permitted =>
    obtain ⟨user, action⟩ := permitted
    obtain ⟨path, verified, _⟩ := of_permit_eq_ok outcome
    rcases handle_of_permit_eq_ok outcome with same | ⟨command, asked, made⟩
    · exact Or.inl same
    · exact Or.inr ⟨user, command, verified, path, asked, made⟩

/-- Without the requests that are not verified, the others get the same answers and the deployer
ends up the same. -/
theorem serve_filter (interface : Interface) (deployer : Deployer) (requests : List Request) :
    let counts (request : Request) : Bool := (interface.administrator.verified? request).isSome
    interface.serve deployer (requests.filter counts) =
      ((interface.serve deployer requests).1.filter fun (request, _) => counts request,
        (interface.serve deployer requests).2) := by
  intro counts
  -- The induction is on the requests, for any deployer that the first ones have left.
  induction requests generalizing deployer with
  | nil => rfl
  | cons request rest ih =>
    by_cases verified : counts request = true
    · rw [List.filter_cons_of_pos verified]
      -- A request that counts is answered on both sides from one deployer.
      simp only [serve, ih, List.filter_cons, verified, if_true]
    · -- The deployer is still the same when the rest comes.
      have unverified : interface.administrator.verified? request = none := by
        simpa [counts] using verified
      obtain ⟨reply, handled⟩ := handle_of_unverified unverified
      rw [List.filter_cons_of_neg verified, ih]
      simp only [serve, handled, List.filter_cons, verified, Bool.false_eq_true, if_false]

/-- A request that is not verified gets one answer from all deployers and changes none, and it makes
no difference to the other requests among which it comes. A deployer changes only by the commands of
verified requests, and what such an upload registers has the provider that the options give it, who
is the one that the request is verified to come from unless the options say otherwise. -/
theorem only_verified_requests_matter (interface : Interface) :
    (∀ request, interface.administrator.verified? request = none →
      ∃ reply, ∀ deployer, interface.handle deployer request = (some reply, deployer)) ∧
    (∀ deployer requests,
      let counts (request : Request) : Bool := (interface.administrator.verified? request).isSome
      interface.serve deployer (requests.filter counts) =
        ((interface.serve deployer requests).1.filter fun (request, _) => counts request,
          (interface.serve deployer requests).2)) ∧
    (∀ deployer request, (interface.handle deployer request).2 = deployer ∨
      ∃ user command, interface.administrator.verified? request = some user ∧
        request.target.path = "/apis" ∧ interface.Asks request user command ∧
        (interface.handle deployer request).2 = (deployer.perform command).1) ∧
    ∀ (deployer : Deployer) options user bundle id deployment,
      (deployer.perform (.deployBundle options user bundle)).1.registry.get? id = some deployment →
      deployer.registry.get? id = some deployment ∨
        ∃ apis, Deploy.readBundle deployer.maxExtracted bundle = .ok apis ∧ ∃ api ∈ apis,
          api.id = id ∧ deployment.api.provider =
            if options.preserveProvider then
              api.provider.or ((deployer.registry.get? id).bind fun known => known.api.provider)
            else some user :=
  ⟨fun _ unverified => handle_of_unverified unverified, interface.serve_filter,
    interface.handle_cases, fun _ _ _ _ _ _ found => Deployer.get?_perform_deployBundle found⟩

end Interface

end Admin

end ControlPlane
