import ControlPlane.Proofs.Discovery.Rejection
import ControlPlane.Proofs.Discovery.Stream

/-! The response in flight on a stream: it is the last one of its kind, so its answer is known from
every other request, and nothing but its answer or its deadline frees the stream. -/

namespace ControlPlane

/-- Whether a request answers a response in flight: it is for its kind and has its nonce. -/
structure InFlight.AnsweredBy (flight : InFlight) (request : DiscoveryRequest) : Prop where
  named : ResourceKind.ofTypeUrl? request.typeUrl = some flight.kind
  own : request.nonce = flight.nonce
  echoes : request.nonce.isEmpty = false

namespace Session

variable {session : Session} {flight : InFlight}

/-- Whether the two records of a nonce are in step: the response in flight is the last one of its
kind, which is subscribed. Nothing but a subscribed kind is queued, so this stays so. -/
structure Tracks (session : Session) : Prop where
  inFlight : ∀ flight, session.inFlight = some flight →
    (session.of flight.kind).subscribed = true ∧
      ∃ version, (session.of flight.kind).lastSent = some ⟨version, flight.nonce⟩
  queued : ∀ kind, (session.of kind).queued = true → (session.of kind).subscribed = true

/-- At first nothing is in flight, and nothing queued. -/
theorem tracks_new (label : Label) : (new label).Tracks where
  inFlight _ busy := by cases busy
  queued kind due := by simp at due

/-- Other names leave what is in flight. -/
@[simp] theorem inFlight_rename (session : Session) (kind : ResourceKind)
    (names : OrderedSet String) : (session.rename kind names).inFlight = session.inFlight := by
  unfold rename
  split <;> rfl

/-- Recording an answer leaves what is in flight. -/
@[simp] theorem inFlight_answered (session : Session) (kind : ResourceKind) (version : Nat)
    (request : DiscoveryRequest) :
    (session.answered kind version request).1.inFlight = session.inFlight := by
  unfold answered
  split <;> rfl

/-- The response in flight is settled by its own kind and nonce, and by nothing else. -/
theorem inFlight_settle (session : Session) (kind : ResourceKind) (nonce : String) :
    (session.settle kind nonce).inFlight =
      session.inFlight.filter fun f => ¬ (f.kind = kind ∧ f.nonce = nonce) := by
  unfold settle
  cases busy : session.inFlight with
  | none => exact busy
  | some f =>
    -- The response is dropped just if kind and nonce are its own.
    rw [Option.filter_some]
    by_cases own : f.kind = kind ∧ f.nonce = nonce
    · rw [if_neg (by simpa using own)]
      exact congrArg inFlight (if_pos own)
    · rw [if_pos (decide_eq_true own)]
      exact (congrArg inFlight (if_neg own)).trans busy

/-- A request puts nothing in flight. -/
theorem inFlight_of_handle {request : DiscoveryRequest}
    (flying : (session.handle request).1.inFlight = some flight) :
    session.inFlight = some flight := by
  -- At most a request settles what is in flight.
  have meaning := session.handled request
  generalize session.handle request = handled at meaning flying
  cases meaning with
  | unknown _ => exact flying
  | asked _ _ => exact flying
  | stale _ _ _ _ => exact flying
  | answered _ _ _ _ _ =>
    rw [inFlight_rename, inFlight_answered, inFlight_settle] at flying
    exact (Option.filter_eq_some_iff.mp flying).1

/-- A request clears the response in flight exactly if it answers it. -/
theorem Tracks.inFlight_handle (tracks : session.Tracks) (busy : session.inFlight = some flight)
    (request : DiscoveryRequest) :
    flight.AnsweredBy request ∧ (session.handle request).1.inFlight = none ∨
      ¬ flight.AnsweredBy request ∧ (session.handle request).1.inFlight = some flight := by
  -- What each meaning of the request says of its nonce is compared with the last response.
  obtain ⟨flies, version, last⟩ := tracks.inFlight flight busy
  have meaning := session.handled request
  generalize session.handle request = handled at meaning
  cases meaning with
  | unknown foreign =>
    refine Or.inr ⟨fun answer => ?_, busy⟩
    cases foreign.symm.trans answer.named
  | @asked kind named first =>
    -- A request that subscribes has no nonce, or is for a kind of which nothing is in flight.
    refine Or.inr ⟨fun answer => ?_, busy⟩
    cases named.symm.trans answer.named
    rcases first with silent | unasked
    · exact absurd (silent.symm.trans answer.echoes) (by simp)
    · exact absurd (flies.symm.trans unasked) (by simp)
  | @stale kind named echoes subscribed foreign =>
    -- The nonce in flight is that of the last response, so it is not stale.
    refine Or.inr ⟨fun answer => ?_, busy⟩
    cases named.symm.trans answer.named
    exact foreign _ last answer.own.symm
  | @answered kind sent named echoes subscribed _ _ =>
    rw [inFlight_rename, inFlight_answered, inFlight_settle, busy, Option.filter_some]
    by_cases own : flight.kind = kind ∧ flight.nonce = request.nonce
    · exact Or.inl ⟨⟨own.1 ▸ named, own.2.symm, echoes⟩, if_neg (by simpa using own)⟩
    · refine Or.inr ⟨fun answer => own ?_, if_pos (decide_eq_true own)⟩
      exact ⟨Option.some.inj (answer.named.symm.trans named), answer.own.symm⟩

/-- A request that is stale or of an unknown type changes nothing. -/
theorem handle_eq_self {request : DiscoveryRequest}
    (ignored : (∃ kind, (session.handle request).2 = .stale kind) ∨
      -- By what the request means, it is ignored or it is heeded, and what is ignored leaves the
      -- session as it is.
      ∃ url, (session.handle request).2 = .unknownType url) :
    (session.handle request).1 = session := by
  have meaning := session.handled request
  generalize session.handle request = handled at meaning ignored
  cases meaning with
  | unknown _ => rfl
  | asked _ _ => simp at ignored
  | stale _ _ _ _ => rfl
  | answered _ _ _ _ _ =>
    -- An answer is an acknowledgement or a rejection.
    unfold answered at ignored
    split at ignored <;> simp at ignored

/-- An answer and its names concern the kind that is answered alone. -/
theorem of_answered_rename (session : Session) {kind other : ResourceKind} (apart : kind ≠ other)
    (version : Nat) (request : DiscoveryRequest) (names : OrderedSet String) :
    (((session.answered kind version request).1.rename kind names).of other) =
      session.of other := by
  -- Recording the answer touches no other kind, and neither does recording the names.
  have answered : ((session.answered kind version request).1.of other) = session.of other := by
    unfold Session.answered
    split
    · rfl
    · rw [of_update, if_neg apart]
  unfold rename
  split
  · exact answered
  · rw [of_update, if_neg apart, answered]

/-- A request queues no kind but a subscribed one. -/
theorem Tracks.queued_handle (tracks : session.Tracks) (request : DiscoveryRequest)
    (kind : ResourceKind) (due : ((session.handle request).1.of kind).queued = true) :
    ((session.handle request).1.of kind).subscribed = true := by
  -- Only asking for a kind puts it into the queue, and that subscribes to it.
  have follows := session.handle_follows kind request
  have meaning := session.handled request
  generalize session.handle request = handled at meaning due follows
  cases meaning with
  | unknown _ => exact tracks.queued kind due
  | @asked other _ _ =>
    -- Asking for a kind subscribes to it.
    simp only [ask, of_update] at due ⊢
    split
    · rfl
    · rename_i apart
      rw [if_neg apart] at due
      exact tracks.queued kind due
  | stale _ _ _ _ => exact tracks.queued kind due
  | @answered other sent _ _ subscribed _ _ =>
    -- The kind that is answered is subscribed, and the others stand as they stood.
    by_cases same : other = kind
    · exact follows.subscribed (same ▸ subscribed)
    · rw [of_answered_rename _ same, of_settle] at due ⊢
      exact tracks.queued kind due

/-- A request keeps the two records of the nonce in step. -/
theorem Tracks.handle (tracks : session.Tracks) (request : DiscoveryRequest) :
    (session.handle request).1.Tracks where
  inFlight flight flying := by
    -- What flies now flew before, and requests send nothing.
    obtain ⟨subscribed, version, last⟩ := tracks.inFlight flight (inFlight_of_handle flying)
    have follows := session.handle_follows flight.kind request
    exact ⟨follows.subscribed subscribed, version, follows.lastSent.trans last⟩
  queued := tracks.queued_handle request

end Session

namespace Stream

variable {stream : Stream} {flight : InFlight}

/-- Every event keeps the two records of the nonce in step. -/
theorem tracks_receive (tracks : stream.session.Tracks) (event : StreamEvent) :
    (stream.receive event).session.Tracks := by
  -- The cases are the events: a deadline clears what is in flight, a request is handled.
  cases event with
  | request request => exact tracks.handle request
  | deadline => exact ⟨fun _ busy => by (cases busy), tracks.queued⟩
  | snapshot snapshot =>
    -- A new version queues kinds that are subscribed, and changes nothing else.
    constructor
    · intro flight busy
      obtain ⟨subscribed, version, last⟩ := tracks.inFlight flight busy
      simp only [receive, Session.of_onSnapshot]
      split
      · exact ⟨subscribed, version, last⟩
      · exact ⟨subscribed, version, last⟩
    · intro kind due
      simp only [receive, Session.of_onSnapshot] at due ⊢
      split
      · rename_i lacking
        exact (Bool.and_eq_true _ _ ▸ lacking).1
      · rename_i sufficient
        rw [if_neg sufficient] at due
        exact tracks.queued kind due

/-- Sending what is due keeps the two records of the nonce in step. -/
theorem tracks_push (tracks : stream.session.Tracks) (nonce : String) (now : Duration) :
    (stream.push nonce now).1.session.Tracks := by
  -- There is nothing to send, or one kind leaves the queue and is in flight.
  rcases stream.push_cases nonce now with ⟨_, none⟩ | ⟨kind, due, _, some⟩
  · rw [none]
    exact tracks
  · rw [some]
    constructor
    · -- What is in flight was sent just now, and its kind was queued.
      intro flight busy
      cases busy
      rw [of_afterSending, if_pos rfl]
      exact ⟨tracks.queued kind due, _, rfl⟩
    · -- A kind that is still queued was queued before.
      intro other waits
      rw [of_afterSending] at waits ⊢
      split at waits
      · cases waits
      · rename_i apart
        rw [if_neg apart]
        exact tracks.queued other waits

/-- A response that was sent is in flight from then on, under the nonce that was chosen for it. -/
theorem inFlight_of_push {after : Stream} {nonce : String} {now : Duration}
    {response : DiscoveryResponse} (sent : stream.push nonce now = (after, some response)) :
    after.session.inFlight = some ⟨response.kind, response.nonce, now⟩ ∧
      response.nonce = nonce := by
  -- What is put in flight is what is sent, with the time at which it is.
  obtain ⟨kind, _, rfl, rfl⟩ := exists_of_push sent
  exact ⟨rfl, rfl⟩

/-- As long as a response is in flight nothing is sent. -/
theorem push_of_inFlight (busy : stream.session.inFlight = some flight) (nonce : String)
    (now : Duration) : stream.push nonce now = (stream, none) := by
  -- The next kind is looked for only if nothing is in flight.
  simp [push, Session.next, busy]

/-- An event leaves the response in flight unless it is its answer or its deadline. -/
theorem inFlight_receive (tracks : stream.session.Tracks)
    (busy : stream.session.inFlight = some flight) {event : StreamEvent}
    (request : ∀ request, event = .request request → ¬ flight.AnsweredBy request)
    (deadline : event ≠ .deadline) : (stream.receive event).session.inFlight = some flight := by
  -- A request that is no answer leaves the response, and a snapshot has nothing to do with it.
  cases event with
  | request asked =>
    rcases tracks.inFlight_handle busy asked with ⟨answer, _⟩ | ⟨_, kept⟩
    · exact absurd answer (request asked rfl)
    · exact kept
  | snapshot snapshot => exact busy
  | deadline => exact absurd rfl deadline

end Stream

end ControlPlane
