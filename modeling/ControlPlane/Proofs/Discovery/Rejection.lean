import Mathlib.Data.List.Induction
import ControlPlane.Proofs.Discovery.Session

/-! What becomes of the accepted version of a kind after a response of the kind was rejected.

A response is told from others by its nonce alone, and a rejection leaves no trace of its own. -/

namespace ControlPlane

/-- The version that an outcome accepts for a kind. -/
def Outcome.accepts (kind : ResourceKind) : Outcome → Option Nat
  | .acked other version => if other = kind then some version else none
  | _ => none

/-- What is on record of a kind after another state of it: the response that was recorded since, if
any, and the version that was accepted since, if any. -/
structure Subscription.Follows (before after : Subscription) (pushed : Option Sent)
    (accepted : Option Nat) : Prop where
  lastSent : after.lastSent = pushed.or before.lastSent
  accepted : after.accepted = accepted.or before.accepted
  subscribed : before.subscribed = true → after.subscribed = true

/-- A kind that nothing happened to follows itself. -/
theorem Subscription.Follows.refl (state : Subscription) : state.Follows state none none :=
  ⟨rfl, rfl, id⟩

namespace Session

variable {session rejected : Session} {kind : ResourceKind} {request : DiscoveryRequest}

/-- The response of a kind that a call records. -/
def Call.push (kind : ResourceKind) : Call → Option Sent
  | .sent other version nonce _ => if other = kind then some ⟨version, nonce⟩ else none
  | _ => none

/-- The version of a kind that a call accepts. -/
def accepts (session : Session) (kind : ResourceKind) : Call → Option Nat
  | .request request => (session.handle request).2.accepts kind
  | _ => none

/-- The responses of a kind that calls record. -/
def pushes (kind : ResourceKind) (calls : List Call) : List Sent :=
  calls.filterMap (Call.push kind)

/-- A request answers the last response of a kind, which had some version. -/
structure Answers (session : Session) (request : DiscoveryRequest) (kind : ResourceKind)
    (version : Nat) : Prop where
  named : ResourceKind.ofTypeUrl? request.typeUrl = some kind
  echoes : request.nonce.isEmpty = false
  subscribed : (session.of kind).subscribed = true
  last : (session.of kind).lastSent = some ⟨version, request.nonce⟩

/-- An answer rejects the response if it says why, and accepts it otherwise. -/
theorem outcome_of_answers {version : Nat} (answer : session.Answers request kind version) :
    (session.handle request).2 = match request.rejection with
      | some message => .nacked kind version message
      | none => .acked kind version := by
  -- An answer passes all tests before the one for a rejection.
  unfold handle
  simp only [answer.named, answer.echoes, answer.subscribed, answer.last]
  simp only [answered, Bool.false_eq_true, Bool.not_true, or_self, if_false, ne_eq,
    not_true_eq_false]
  cases request.rejection <;> rfl

/-- Only an answer to the last response acknowledges or rejects one, and it is that response. -/
theorem answers_of_outcome {version : Nat}
    (outcome : (session.handle request).2 = .acked kind version ∨
      ∃ message, (session.handle request).2 = .nacked kind version message) :
    session.Answers request kind version := by
  -- By what the request means, only an answer has one of these two outcomes.
  have meaning := session.handled request
  generalize session.handle request = handled at outcome meaning
  cases meaning with
  | unknown _ => simp at outcome
  | asked _ _ => simp at outcome
  | stale _ _ _ _ => simp at outcome
  | @answered other sent named echoes subscribed last own =>
    -- Both answers tell the kind and the version of what they answer.
    obtain ⟨rfl, rfl⟩ : other = kind ∧ sent.version = version := by
      unfold answered at outcome
      split at outcome <;> simpa using outcome
    exact ⟨named, echoes, subscribed, by rw [last, ← own]⟩

/-- A response is acknowledged exactly by an answer that does not reject it. -/
theorem acked_iff {version : Nat} :
    (session.handle request).2 = .acked kind version ↔
      session.Answers request kind version ∧ request.rejection = none := by
  constructor
  · -- The other part is what an acknowledgement says of the response.
    intro acked
    have answer := answers_of_outcome (Or.inl acked)
    refine ⟨answer, ?_⟩
    rw [outcome_of_answers answer] at acked
    -- With a reason the outcome would be a rejection.
    cases reason : request.rejection with
    | none => rfl
    | some message => rw [reason] at acked; cases acked
  · rintro ⟨answer, plain⟩
    rw [outcome_of_answers answer, plain]

/-- A change of one kind shows on the record of that kind, and on no other. -/
theorem update_follows (session : Session) {kind other : ResourceKind}
    {change : Subscription → Subscription} {pushed : Option Sent} {accepted : Option Nat}
    (here : other = kind →
      (session.of kind).Follows (change (session.of kind)) pushed accepted)
    (elsewhere : other ≠ kind → pushed = none ∧ accepted = none) :
    (session.of kind).Follows ((session.update other change).of kind) pushed accepted := by
  -- The kind on record is the one that is changed, or another one.
  rw [of_update]
  by_cases same : other = kind
  · rw [if_pos same, same]
    exact here same
  · obtain ⟨rfl, rfl⟩ := elsewhere same
    rw [if_neg same]
    exact .refl _

/-- Recording other names leaves alone what was sent and accepted. -/
theorem rename_follows (session : Session) (kind other : ResourceKind)
    (names : OrderedSet String) :
    (session.of kind).Follows ((session.rename other names).of kind) none none := by
  unfold rename
  split
  · -- The names are those on record.
    exact .refl _
  · -- The names are other ones, and nothing but the names is changed.
    exact session.update_follows (fun _ => ⟨rfl, rfl, id⟩) fun _ => ⟨rfl, rfl⟩

/-- An answer accepts what its outcome says, and sends nothing. -/
theorem answered_follows (session : Session) (kind other : ResourceKind) (version : Nat)
    (request : DiscoveryRequest) :
    (session.of kind).Follows ((session.answered other version request).1.of kind) none
      ((session.answered other version request).2.accepts kind) := by
  unfold answered
  split
  · -- A rejection changes nothing.
    exact .refl _
  · -- An acknowledgement accepts the version of what it answers.
    exact session.update_follows (fun same => ⟨rfl, by simp [Outcome.accepts, same], id⟩)
      fun apart => ⟨rfl, by simp [Outcome.accepts, apart]⟩

/-- A request accepts for a kind what its outcome says, and sends nothing. -/
theorem handle_follows (session : Session) (kind : ResourceKind) (request : DiscoveryRequest) :
    (session.of kind).Follows ((session.handle request).1.of kind) none
      ((session.handle request).2.accepts kind) := by
  -- The cases are the meanings of the request.
  have meaning := session.handled request
  generalize session.handle request = handled at meaning
  cases meaning with
  | unknown _ => exact .refl _
  | asked _ _ =>
    -- Asking for a kind neither sends nor accepts.
    exact session.update_follows (fun _ => ⟨rfl, rfl, fun _ => rfl⟩) fun _ => ⟨rfl, rfl⟩
  | stale _ _ _ _ => exact .refl _
  | @answered other sent _ _ _ _ _ =>
    -- Settling leaves the kind alone, then comes the answer, then the names.
    have answer := (session.settle other request.nonce).answered_follows kind other sent.version
      request
    rw [session.of_settle] at answer
    have names := rename_follows ((session.settle other request.nonce).answered other sent.version
      request).1 kind other (.ofList request.names)
    exact ⟨names.lastSent.trans answer.lastSent, names.accepted.trans answer.accepted,
      fun subscribed => names.subscribed (answer.subscribed subscribed)⟩

/-- A call records for a kind the response that it sends, and the version that it accepts. -/
theorem call_follows (call : Call) :
    (session.of kind).Follows ((session.call call).of kind) (call.push kind)
      (session.accepts kind call) := by
  cases call with
  | request request => exact session.handle_follows kind request
  | snapshot version =>
    -- A new version at most queues the kind.
    simp only [Session.call, of_onSnapshot]
    split
    · exact ⟨rfl, rfl, id⟩
    · exact .refl _
  | next =>
    -- Either nothing is due, or the kind that is due leaves the queue.
    rcases session.next_cases with ⟨-, same⟩ | ⟨-, -, same⟩ | ⟨due, -, -, -, taken⟩
    · simpa only [Session.call, same] using .refl _
    · simpa only [Session.call, same] using .refl _
    · simp only [Session.call, taken]
      exact session.update_follows (fun _ => ⟨rfl, rfl, id⟩) fun _ => ⟨rfl, rfl⟩
  | sent other version nonce now =>
    -- The response becomes the last one of its kind; that it is in flight concerns no kind.
    show (session.of kind).Follows ((session.update other fun state =>
      { state with lastSent := some ⟨version, nonce⟩ }).of kind) _ _
    exact session.update_follows (fun same => ⟨by simp [Call.push, same], rfl, id⟩)
      fun apart => ⟨by simp [Call.push, apart], rfl⟩
  | expire => exact .refl _

/-- The state after one more call. -/
theorem run_concat (calls : List Call) (last : Call) :
    session.run (calls ++ [last]) = (session.run calls).call last := by
  simp [run]

/-- After calls, the last response on record is the last one that they record, if any. -/
theorem lastSent_run (calls : List Call) :
    ((session.run calls).of kind).lastSent =
      (pushes kind calls).getLast?.or (session.of kind).lastSent := by
  -- The induction is on the calls from the last one backwards, as the last response decides.
  induction calls using List.reverseRecOn with
  | nil => rfl
  | append_singleton calls last ih =>
    rw [run_concat, (call_follows last).lastSent, ih, pushes, pushes, List.filterMap_append]
    cases pushed : last.push kind with
    | none => simp [pushed]
    | some sent => simp [pushed]

/-- A kind stays subscribed. -/
theorem subscribed_run (calls : List Call) (subscribed : (session.of kind).subscribed = true) :
    ((session.run calls).of kind).subscribed = true := by
  -- No call ends a subscription.
  induction calls using List.reverseRecOn with
  | nil => exact subscribed
  | append_singleton calls last ih => rw [run_concat]; exact (call_follows last).subscribed ih

/-- Among calls, a response of a kind that they record is acknowledged. -/
def AcceptsNewer (session : Session) (kind : ResourceKind) (calls : List Call) : Prop :=
  ∃ earlier request version, earlier ++ [.request request] <+: calls ∧ pushes kind earlier ≠ [] ∧
    ((session.run earlier).handle request).2 = .acked kind version

/-- Among calls, before they record a response of a kind, a request for the kind has a nonce and
rejects nothing. -/
def Echoes (kind : ResourceKind) (nonce : String) (calls : List Call) : Prop :=
  ∃ earlier request, earlier ++ [.request request] <+: calls ∧ pushes kind earlier = [] ∧
    ResourceKind.ofTypeUrl? request.typeUrl = some kind ∧ request.nonce = nonce ∧
      request.rejection = none

/-- What was acknowledged among calls stays so after one more. -/
theorem AcceptsNewer.concat {calls : List Call} (newer : session.AcceptsNewer kind calls)
    (call : Call) : session.AcceptsNewer kind (calls ++ [call]) := by
  -- The acknowledgement is among the first calls, and it stays where it is.
  obtain ⟨earlier, request, version, before, acked⟩ := newer
  exact ⟨earlier, request, version, before.trans (List.prefix_append ..), acked⟩

/-- With one more call a nonce comes back among calls before, or by the last of them. -/
theorem echoes_concat_iff {nonce : String} {calls : List Call} {call : Call} :
    Echoes kind nonce (calls ++ [call]) ↔ Echoes kind nonce calls ∨
      ∃ request, call = .request request ∧ pushes kind calls = [] ∧
        ResourceKind.ofTypeUrl? request.typeUrl = some kind ∧ request.nonce = nonce ∧
          request.rejection = none := by
  constructor
  · -- The request is the last of all calls, or it is one of those before.
    rintro ⟨earlier, request, before, echo⟩
    rcases List.prefix_concat_iff.mp before with whole | inside
    · obtain ⟨rfl, rfl⟩ : earlier = calls ∧ .request request = call := by simpa using whole
      exact Or.inr ⟨request, rfl, echo⟩
    · exact Or.inl ⟨earlier, request, inside, echo⟩
  · rintro (⟨earlier, request, before, echo⟩ | ⟨request, rfl, echo⟩)
    · exact ⟨earlier, request, before.trans (List.prefix_append ..), echo⟩
    · exact ⟨calls, request, List.prefix_rfl, echo⟩

/-- A call accepts a version for a kind by a request that is an acknowledgement. -/
theorem exists_of_accepts {call : Call} {version : Nat}
    (accepted : session.accepts kind call = some version) :
    ∃ request, call = .request request ∧ (session.handle request).2 = .acked kind version := by
  -- Only a request accepts anything, and only by an acknowledgement of this kind.
  unfold accepts at accepted
  split at accepted
  · rename_i request
    refine ⟨request, rfl, ?_⟩
    unfold Outcome.accepts at accepted
    split at accepted
    · rename_i outcome
      split at accepted
      · rename_i same
        cases accepted
        rw [outcome, same]
      · cases accepted
    · cases accepted
  · cases accepted

/-- Until a newer response is acknowledged, the version of the last response counts as accepted once
its nonce comes back without a reason, and what was accepted before counts otherwise. -/
theorem accepted_run {version : Nat} {nonce : String} (given : nonce.isEmpty = false)
    (subscribed : (session.of kind).subscribed = true)
    (last : (session.of kind).lastSent = some ⟨version, nonce⟩) (calls : List Call)
    (pending : ¬ session.AcceptsNewer kind calls) :
    (Echoes kind nonce calls → ((session.run calls).of kind).accepted = some version) ∧
      (¬ Echoes kind nonce calls →
        ((session.run calls).of kind).accepted = (session.of kind).accepted) := by
  -- The induction is on the calls from the last one backwards, with the version that counts after
  -- them.
  induction calls using List.reverseRecOn with
  | nil =>
    refine ⟨?_, fun _ => rfl⟩
    rintro ⟨earlier, request, before, -⟩
    exact absurd (List.prefix_nil.mp before) (by simp)
  | append_singleton calls call ih =>
    obtain ⟨echoed, silent⟩ := ih fun newer => pending (newer.concat call)
    rw [run_concat, (call_follows call).accepted, echoes_concat_iff]
    cases accepted : (session.run calls).accepts kind call with
    | some other =>
      -- The call is an acknowledgement, and not of a newer response.
      obtain ⟨request, rfl, acked⟩ := exists_of_accepts accepted
      obtain ⟨answer, plain⟩ := acked_iff.mp acked
      have unsent : pushes kind calls = [] := by
        by_contra newer
        exact pending ⟨calls, request, other, List.prefix_rfl, newer, acked⟩
      obtain ⟨rfl, own⟩ : version = other ∧ nonce = request.nonce := by
        simpa [lastSent_run, unsent, last] using answer.last
      refine ⟨fun _ => rfl, fun quiet => absurd (Or.inr ?_) quiet⟩
      exact ⟨request, rfl, unsent, answer.named, own.symm, plain⟩
    | none =>
      -- The call accepts nothing, so it does not bring the nonce back either.
      have silent_call : ¬ ∃ request, call = .request request ∧ pushes kind calls = [] ∧
          ResourceKind.ofTypeUrl? request.typeUrl = some kind ∧ request.nonce = nonce ∧
            request.rejection = none := by
        rintro ⟨request, rfl, unsent, named, own, plain⟩
        have answer : (session.run calls).Answers request kind version :=
          ⟨named, own ▸ given, subscribed_run calls subscribed, by
            simp [lastSent_run, unsent, last, own]⟩
        simp [accepts, acked_iff.mpr ⟨answer, plain⟩, Outcome.accepts] at accepted
      rw [or_iff_left silent_call]
      exact ⟨echoed, silent⟩

/-- After a rejection and until a newer response of the kind is acknowledged, the accepted version
stays what it was, unless a request brings the nonce of the rejected response back without a reason:
then the rejected version counts as accepted. -/
theorem accepted_after_rejection {version : Nat} {message : String}
    (nacked : session.handle request = (rejected, .nacked kind version message)) :
    (rejected.of kind).accepted = (session.of kind).accepted ∧
      ∀ calls, ¬ rejected.AcceptsNewer kind calls →
        (Echoes kind request.nonce calls →
          ((rejected.run calls).of kind).accepted = some version) ∧
        (((rejected.run calls).of kind).accepted = (session.of kind).accepted ↔
          (Echoes kind request.nonce calls → (session.of kind).accepted = some version)) := by
  have outcome : (session.handle request).2 = .nacked kind version message := by rw [nacked]
  have after : (session.handle request).1 = rejected := by rw [nacked]
  have answer := answers_of_outcome (Or.inr ⟨message, outcome⟩)
  -- The rejection itself leaves everything on record.
  have kept := session.handle_follows kind request
  rw [after, outcome] at kept
  have accepted : (rejected.of kind).accepted = (session.of kind).accepted := kept.accepted
  refine ⟨accepted, fun calls pending => ?_⟩
  obtain ⟨echoed, silent⟩ := accepted_run answer.echoes (kept.subscribed answer.subscribed)
    (kept.lastSent.trans answer.last) calls pending
  refine ⟨echoed, fun same echo => same ▸ echoed echo, fun covered => ?_⟩
  -- Whether the nonce comes back decides which version counts.
  by_cases echo : Echoes kind request.nonce calls
  · rw [echoed echo, covered echo]
  · rw [silent echo, accepted]

/-- Without a newer response none is acknowledged. -/
theorem not_acceptsNewer {calls : List Call} (unsent : pushes kind calls = []) :
    ¬ session.AcceptsNewer kind calls := by
  -- The response would have to be recorded among calls that record none.
  rintro ⟨earlier, request, version, ⟨later, rfl⟩, newer, -⟩
  simp only [pushes, List.filterMap_append, List.append_eq_nil_iff] at unsent
  exact newer unsent.1.1

/-- A request for clusters. -/
def clusterRequest (nonce : String) (names : List String) (rejection : Option String) :
    DiscoveryRequest :=
  ⟨ResourceKind.cluster.typeUrl, nonce, names, rejection, none⟩

/-- A stream whose subscriber accepted clusters at version 1 and was then sent version 2. -/
def upgraded : Session := (new .default).run
  [.request (clusterRequest "" [] none), .next, .sent .cluster 1 "a" ⟨0⟩,
    .request (clusterRequest "a" [] none), .snapshot 2, .next, .sent .cluster 2 "b" ⟨0⟩]

/-- If the subscriber rejects version 2, version 1 stays accepted as long as the nonce does not come
back. -/
theorem accepted_after_rejection_upgraded :
    ∃ rejected, upgraded.handle (clusterRequest "b" [] (some "bad cluster")) =
        (rejected, .nacked .cluster 2 "bad cluster") ∧
      ∀ calls, ¬ rejected.AcceptsNewer .cluster calls → ¬ Echoes .cluster "b" calls →
        ((rejected.run calls).of .cluster).accepted = some 1 := by
  -- The rejection and the version before it are computed.
  have nacked : upgraded.handle (clusterRequest "b" [] (some "bad cluster")) =
      ((upgraded.handle (clusterRequest "b" [] (some "bad cluster"))).1,
        .nacked .cluster 2 "bad cluster") := by decide
  have first : (upgraded.of .cluster).accepted = some 1 := by decide
  refine ⟨_, nacked, fun calls pending silent => ?_⟩
  obtain ⟨-, kept⟩ := (accepted_after_rejection nacked).2 calls pending
  exact (kept.mpr fun echo => absurd echo silent).trans first

/-- If the subscriber then asks for other names with that nonce, the rejected version becomes the
accepted one, though nothing was sent in between. -/
theorem renaming_accepts_rejected :
    ∃ rejected, upgraded.handle (clusterRequest "b" [] (some "bad cluster")) =
        (rejected, .nacked .cluster 2 "bad cluster") ∧
      (upgraded.of .cluster).accepted = some 1 ∧
      ¬ rejected.AcceptsNewer .cluster [.request (clusterRequest "b" ["edge"] none)] ∧
      ((rejected.run [.request (clusterRequest "b" ["edge"] none)]).of .cluster).accepted =
        some 2 :=
  ⟨(upgraded.handle (clusterRequest "b" [] (some "bad cluster"))).1, by decide, by decide,
    not_acceptsNewer rfl, by decide⟩

end Session

end ControlPlane
