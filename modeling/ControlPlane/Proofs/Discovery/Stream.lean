import ControlPlane.Discovery.Stream
import ControlPlane.Proofs.Discovery.Session

/-! A stream accounts for what it sent: what is not queued was sent as it would be sent now. -/

namespace ControlPlane

/-- The last response of a kind among responses, the first of which came first. -/
def DiscoveryResponse.latest (kind : ResourceKind) (responses : List DiscoveryResponse) :
    Option DiscoveryResponse :=
  (responses.filter fun response => response.kind = kind).getLast?

open DiscoveryResponse (latest)

/-- Without responses there is no last one. -/
@[simp] theorem DiscoveryResponse.latest_nil (kind : ResourceKind) : latest kind [] = none := rfl

/-- One more response is the last of its kind, and no other kind has a new last one. -/
@[simp] theorem DiscoveryResponse.latest_append (kind : ResourceKind)
    (responses : List DiscoveryResponse) (response : DiscoveryResponse) :
    latest kind (responses ++ [response]) =
      if response.kind = kind then some response else latest kind responses := by
  -- The response passes the filter exactly if it is of the kind.
  unfold latest
  by_cases same : response.kind = kind <;> simp [List.filter_append, same]

namespace Stream

/-- Whether the last response of a kind is the one that the stream would build now: from the
snapshot that it holds, and for the names on record. -/
def UpToDate (stream : Stream) (responses : List DiscoveryResponse) (kind : ResourceKind) : Prop :=
  ∃ response, latest kind responses = some response ∧
    response.version = stream.current.version ∧
    response.resources =
      Wire.encode kind (stream.session.of kind).names.items stream.current.resources

/-- Whether a stream knows what it sent, and queues whatever it would send differently now. -/
structure Accounted (stream : Stream) (responses : List DiscoveryResponse) : Prop where
  logged : ∀ kind, (stream.session.of kind).lastSent =
    (latest kind responses).map fun response => ⟨response.version, response.nonce⟩
  owed : ∀ kind, (stream.session.of kind).subscribed = true →
    (stream.session.of kind).queued = false → stream.UpToDate responses kind

/-- Whether a stream has a reason to wait: a response in flight, or an empty queue. -/
def Waits (stream : Stream) : Prop :=
  stream.session.inFlight.isSome = true ∨ ∀ kind, (stream.session.of kind).queued = false

/-- A stream on which nothing was asked for has nothing to account for. -/
theorem accounted_new (snapshot : Snapshot) :
    Accounted ⟨.new snapshot.label, snapshot⟩ [] :=
  ⟨fun kind => by simp, fun kind subscribed => by simp at subscribed⟩

/-- What a kind asks for stays accounted for if each change of it is queued. -/
theorem Accounted.of_owes {stream : Stream} {responses : List DiscoveryResponse}
    (accounted : stream.Accounted responses) (session : Session)
    (owes : ∀ kind, (stream.session.of kind).Owes (session.of kind)) :
    Accounted ⟨session, stream.current⟩ responses := by
  refine ⟨fun kind => (owes kind).1.trans (accounted.logged kind),
    fun kind subscribed settled => ?_⟩
  rcases (owes kind).2 with queued | ⟨queue, names, subscription⟩
  · -- A queued kind owes its response still.
    exact absurd queued (by simp [settled])
  · -- Nothing changed about this kind, so its last response is still the one to build.
    obtain ⟨response, last, version, resources⟩ :=
      accounted.owed kind (subscription ▸ subscribed) (queue ▸ settled)
    exact ⟨response, last, version, by rw [names]; exact resources⟩

/-- Every event leaves the stream accounted for, if no two snapshots it is shown share a version. -/
theorem Accounted.receive {stream : Stream} {responses : List DiscoveryResponse}
    (accounted : stream.Accounted responses) {event : StreamEvent}
    (news : ∀ snapshot, event = .snapshot snapshot →
      snapshot.version = stream.current.version → snapshot = stream.current) :
    (stream.receive event).Accounted responses := by
  cases event with
  -- A request queues whatever it changes, and a deadline changes nothing that is asked for.
  | request request => exact accounted.of_owes _ (stream.session.handle_owes request)
  | deadline => exact accounted.of_owes _ fun kind => .refl _
  | snapshot snapshot =>
    have held := accounted.of_owes _ (stream.session.onSnapshot_owes snapshot.version)
    refine ⟨held.logged, fun kind subscribed settled => ?_⟩
    -- A kind that the new version does not queue was sent at that version.
    obtain ⟨response, last, version, resources⟩ := held.owed kind subscribed settled
    have sent := Session.sent_of_onSnapshot stream.session subscribed settled
    rw [accounted.logged, last] at sent
    simp only [Option.map_some, Option.some.injEq] at sent
    have same := news snapshot rfl (sent.symm.trans version)
    subst same
    exact ⟨response, last, version, resources⟩

/-- The first request is an event like any other on a stream where nothing was asked for. -/
theorem opened_eq_receive (snapshot : Snapshot) (first : DiscoveryRequest) :
    opened snapshot first =
      (⟨.new snapshot.label, snapshot⟩ : Stream).receive (.request first) := rfl

/-- No event changes the label of a stream. -/
@[simp] theorem label_receive (stream : Stream) (event : StreamEvent) :
    (stream.receive event).session.label = stream.session.label := by
  -- Only a request goes through the session, which keeps its label.
  cases event with
  | request request => exact stream.session.label_handle request
  | snapshot snapshot => rfl
  | deadline => rfl

/-- The first request leaves a stream with the label of the snapshot that it opens with. -/
@[simp] theorem label_opened (snapshot : Snapshot) (first : DiscoveryRequest) :
    (opened snapshot first).session.label = snapshot.label :=
  Session.label_handle _ first

/-- The stream after it has sent the response of a kind. -/
def afterSending (stream : Stream) (kind : ResourceKind) (nonce : String) (now : Duration) :
    Stream :=
  let session := stream.session.update kind fun s => { s with queued := false }
  { stream with session := session.recordSent kind stream.current.version nonce now }

/-- Sending changes the kind that is sent and no other. -/
theorem of_afterSending (stream : Stream) (kind other : ResourceKind) (nonce : String)
    (now : Duration) :
    (stream.afterSending kind nonce now).session.of other =
      if kind = other then
        { stream.session.of kind with
          queued := false, lastSent := some ⟨stream.current.version, nonce⟩ }
      else stream.session.of other := by
  -- Taking the kind from the queue and recording the response are two changes of that kind.
  simp only [afterSending, Session.of_recordSent, Session.of_update]
  split <;> simp

/-- Either there is a reason to wait and nothing is sent, or the queued kind of least rank is. -/
theorem push_cases (stream : Stream) (nonce : String) (now : Duration) :
    (stream.Waits ∧ stream.push nonce now = (stream, none)) ∨
    ∃ kind, (stream.session.of kind).queued = true ∧
      (∀ other, other.rank < kind.rank → (stream.session.of other).queued = false) ∧
      stream.push nonce now = (stream.afterSending kind nonce now,
        some (stream.response kind nonce)) := by
  -- What is sent is what the session has next.
  unfold push
  rcases stream.session.next_cases with ⟨busy, next⟩ | ⟨_, done, next⟩ | ⟨kind, _, due, first, next⟩
  · exact Or.inl ⟨Or.inl busy, by rw [next]⟩
  · exact Or.inl ⟨Or.inr done, by rw [next]⟩
  · exact Or.inr ⟨kind, due, first, by rw [next]; rfl⟩

/-- A response that was sent is that of the queued kind of the least rank. -/
theorem exists_of_push {stream after : Stream} {nonce : String} {now : Duration}
    {response : DiscoveryResponse} (sent : stream.push nonce now = (after, some response)) :
    ∃ kind, (∀ other, other.rank < kind.rank → (stream.session.of other).queued = false) ∧
      after = stream.afterSending kind nonce now ∧ response = stream.response kind nonce := by
  -- If nothing is due there is no response.
  rcases stream.push_cases nonce now with ⟨_, none⟩ | ⟨kind, _, first, some⟩
  · rw [none] at sent
    cases sent
  · rw [some] at sent
    cases sent
    exact ⟨kind, first, rfl, rfl⟩

/-- Sending leaves the snapshot that a stream holds. -/
theorem current_push (stream : Stream) (nonce : String) (now : Duration) :
    (stream.push nonce now).1.current = stream.current := by
  -- Only the session changes.
  rcases stream.push_cases nonce now with ⟨_, none⟩ | ⟨kind, _, _, some⟩
  · rw [none]
  · rw [some]
    rfl

/-- Sending leaves a stream with its label. -/
@[simp] theorem label_push (stream : Stream) (nonce : String) (now : Duration) :
    -- If anything is sent, it is recorded in the session under the same label.
    (stream.push nonce now).1.session.label = stream.session.label := by
  rcases stream.push_cases nonce now with ⟨_, none⟩ | ⟨kind, _, _, some⟩
  · rw [none]
  · rw [some]
    rfl

/-- After sending what is due the stream has a reason to wait. -/
theorem waits_push (stream : Stream) (nonce : String) (now : Duration) :
    (stream.push nonce now).1.Waits := by
  -- Nothing was sent for a reason, and that reason is still there.
  rcases stream.push_cases nonce now with ⟨waits, none⟩ | ⟨kind, _, _, some⟩
  · rw [none]
    exact waits
  · -- A response that was sent is in flight.
    rw [some]
    exact Or.inl rfl

/-- A sent response is on record, and every other kind stands as it stood. -/
theorem Accounted.afterSending {stream : Stream} {responses : List DiscoveryResponse}
    (accounted : stream.Accounted responses) (kind : ResourceKind) (nonce : String)
    (now : Duration) :
    (stream.afterSending kind nonce now).Accounted
      (responses ++ [stream.response kind nonce]) := by
  constructor
  · -- The record of the kind is the response, and that of another kind is what it was.
    intro other
    rw [of_afterSending, DiscoveryResponse.latest_append]
    by_cases same : kind = other
    · subst same
      simp [response]
    · simpa [response, same] using accounted.logged other
  · intro other subscribed settled
    unfold UpToDate
    rw [of_afterSending] at subscribed settled ⊢
    rw [DiscoveryResponse.latest_append]
    by_cases same : kind = other
    · -- The response of this kind was built just now.
      subst same
      exact ⟨stream.response kind nonce, if_pos rfl, rfl, by simp [response, Stream.afterSending]⟩
    · -- Another kind owes what it owed before.
      have apart : (stream.response kind nonce).kind ≠ other := same
      rw [if_neg same] at subscribed settled
      rw [if_neg apart, if_neg same]
      exact accounted.owed other subscribed settled

/-- A stream accounts for what it sent, whether or not something was due. -/
theorem Accounted.push {stream : Stream} {responses : List DiscoveryResponse}
    (accounted : stream.Accounted responses) (nonce : String) (now : Duration) :
    (stream.push nonce now).1.Accounted (responses ++ (stream.push nonce now).2.toList) := by
  rcases stream.push_cases nonce now with ⟨_, none⟩ | ⟨kind, _, _, some⟩
  · -- Nothing changes, and nothing is added.
    rw [none, Option.toList_none, List.append_nil]
    exact accounted
  · rw [some]
    exact accounted.afterSending kind nonce now

/-- When a response is sent, every subscribed kind of smaller rank is up to date already. -/
theorem Accounted.upToDate_of_push {stream : Stream} {responses : List DiscoveryResponse}
    (accounted : stream.Accounted responses) {nonce : String} {now : Duration} {after : Stream}
    {response : DiscoveryResponse} (sent : stream.push nonce now = (after, some response))
    {other : ResourceKind} (smaller : other.rank < response.kind.rank)
    (subscribed : (after.session.of other).subscribed = true) :
    after.UpToDate responses other := by
  obtain ⟨kind, first, rfl, rfl⟩ := exists_of_push sent
  -- The kind that was due is the first in the queue, so the smaller ones are not queued.
  have apart : kind ≠ other := fun same => absurd smaller (same ▸ Nat.lt_irrefl _)
  unfold UpToDate
  rw [of_afterSending, if_neg apart] at subscribed ⊢
  exact accounted.owed other subscribed (first other smaller)

/-- A response that is sent is of the version that the stream holds, for the names on record. -/
theorem built_of_push {stream after : Stream} {nonce : String} {now : Duration}
    {response : DiscoveryResponse} (sent : stream.push nonce now = (after, some response)) :
    response.version = after.current.version ∧
      response.resources = Wire.encode response.kind
        (after.session.of response.kind).names.items after.current.resources := by
  obtain ⟨kind, _, rfl, rfl⟩ := exists_of_push sent
  refine ⟨rfl, ?_⟩
  -- Sending does not change the names on record.
  rw [of_afterSending]
  simp [response, Stream.afterSending]

end Stream

end ControlPlane
