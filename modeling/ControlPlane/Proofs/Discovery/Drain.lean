import ControlPlane.Proofs.Discovery.Flight
import ControlPlane.Proofs.Discovery.Resend
import ControlPlane.Proofs.Discovery.Versions

/-! A stream that was shown a new version drains its queue: whatever settles the response in flight
queues nothing, and lets the next kind be sent. -/

namespace ControlPlane

/-- Whether a kind stands as it stood, but for the version that was accepted. -/
def Subscription.Stands (before after : Subscription) : Prop :=
  after = { before with accepted := after.accepted }

namespace Session

variable {session : Session}

/-- The kinds that wait are those that are queued. -/
theorem mem_pending {kind : ResourceKind} :
    kind ∈ session.pending ↔ (session.of kind).queued = true := by
  -- All kinds are looked through.
  simp [pending, ResourceKind.mem_all]

/-- The kinds wait in the order of their ranks. -/
theorem pending_ascending (session : Session) :
    session.pending.Pairwise fun early late => early.rank < late.rank :=
  ResourceKind.all_ascending.filter _

/-- Of no kind more than one response is due. -/
theorem length_pending_le (session : Session) : session.pending.length ≤ 4 :=
  List.length_filter_le ..

/-- Which kinds wait is told by what is queued. -/
theorem pending_congr {other : Session}
    (same : ∀ kind, (session.of kind).queued = (other.of kind).queued) :
    session.pending = other.pending := by
  -- The queue is made of nothing else.
  simp only [pending, same]

/-- After a new version a kind waits if it is subscribed and was last sent at another version, or if
it was queued before, by a subscription or by other names. -/
theorem Tracks.mem_pending_onSnapshot (tracks : session.Tracks) {version : Nat}
    {kind : ResourceKind} :
    kind ∈ (session.onSnapshot version).pending ↔ (session.of kind).subscribed = true ∧
      ((session.of kind).lastSent.map Sent.version ≠ some version ∨
        (session.of kind).queued = true) := by
  -- A new version queues the kinds that lack it, and takes none out of the queue.
  rw [mem_pending, of_onSnapshot]
  by_cases lacking : lacks version (session.of kind) = true
  · rw [if_pos lacking]
    simp only [lacks, Bool.and_eq_true, bne_iff_ne] at lacking
    exact ⟨fun _ => ⟨lacking.1, Or.inl lacking.2⟩, fun _ => rfl⟩
  · -- The version is no reason to queue the kind, so only what queued it before is.
    rw [if_neg lacking]
    refine ⟨fun queued => ⟨tracks.queued kind queued, Or.inr queued⟩, ?_⟩
    rintro ⟨subscribed, other | queued⟩
    · exact absurd (by simp [lacks, subscribed, other]) lacking
    · exact queued

/-- Recording an answer leaves every kind as it stood. -/
theorem stands_answered (session : Session) (kind other : ResourceKind) (version : Nat)
    (request : DiscoveryRequest) :
    (session.of kind).Stands ((session.answered other version request).1.of kind) := by
  unfold answered
  split
  · -- A rejection changes nothing at all.
    rfl
  · -- An acknowledgement changes what is accepted, of one kind.
    rw [of_update]
    split
    · rename_i same
      exact same ▸ rfl
    · rfl

/-- The names on record are no change. -/
theorem rename_eq_self {kind : ResourceKind} {names : OrderedSet String}
    (same : names = (session.of kind).names) : session.rename kind names = session := if_pos same

/-- An answer to the response in flight with the names on record leaves every kind as it stood. -/
theorem Tracks.stands_handle (tracks : session.Tracks) {flight : InFlight}
    (busy : session.inFlight = some flight) {request : DiscoveryRequest}
    (answer : flight.AnsweredBy request)
    (names : OrderedSet.ofList request.names = (session.of flight.kind).names)
    (kind : ResourceKind) : (session.of kind).Stands ((session.handle request).1.of kind) := by
  -- What is in flight was asked for and sent, so the request is an answer to it.
  obtain ⟨subscribed, version, last⟩ := tracks.inFlight flight busy
  have meaning := session.handled request
  generalize session.handle request = handled at meaning
  cases meaning with
  | unknown _ => rfl
  | asked named first =>
    -- An answer has a nonce, and its kind is subscribed already.
    cases named.symm.trans answer.named
    rcases first with silent | unasked
    · exact absurd (silent.symm.trans answer.echoes) (by simp)
    · exact absurd (subscribed.symm.trans unasked) (by simp)
  | stale _ _ _ _ => rfl
  | @answered other own named _ _ _ _ =>
    cases named.symm.trans answer.named
    -- Settling and answering leave the names, so the names of the request are no change.
    have settled := session.of_settle flight.kind flight.kind request.nonce
    have kept := ((session.settle flight.kind request.nonce).queued_answered flight.kind flight.kind
      own.version request).2
    rw [rename_eq_self (by rw [kept, settled, names])]
    have stands := (session.settle flight.kind request.nonce).stands_answered kind flight.kind
      own.version request
    rwa [of_settle] at stands

/-- An acknowledgement of the last response of a kind accepts its version. -/
theorem accepted_handle {request : DiscoveryRequest} {kind : ResourceKind} {version : Nat}
    -- What an acknowledged request accepts is the version that it is about.
    (answer : session.Answers request kind version) (plain : request.rejection = none) :
    ((session.handle request).1.of kind).accepted = some version := by
  have follows := session.handle_follows kind request
  rw [follows.accepted, acked_iff.mpr ⟨answer, plain⟩]
  simp [Outcome.accepts]

end Session

namespace Stream

variable {stream changed : Stream} {event : StreamEvent} {sent : List DiscoveryResponse}

/-- Whether an event settles the response in flight and asks for nothing: it is an answer with the
names on record, which accepts or rejects the response, or its deadline. -/
inductive Settles (stream : Stream) : StreamEvent → Prop where
  | answer {flight : InFlight} {request : DiscoveryRequest}
    (busy : stream.session.inFlight = some flight) (answer : flight.AnsweredBy request)
    (names : OrderedSet.ofList request.names = (stream.session.of flight.kind).names) :
    Settles stream (.request request)
  | deadline {flight : InFlight} (busy : stream.session.inFlight = some flight) :
    Settles stream .deadline

/-- Whether a stream has nothing in flight, and stands as another one did, but for what was
accepted. -/
structure Freed (before after : Stream) : Prop where
  free : after.session.inFlight = none
  current : after.current = before.current
  kinds : ∀ kind, (before.session.of kind).Stands (after.session.of kind)

/-- What settles the response in flight had one to settle. -/
theorem Settles.isSome (settles : stream.Settles event) :
    stream.session.inFlight.isSome = true := by
  -- Both kinds of events are about a response in flight.
  cases settles with
  | answer busy _ _ => rw [busy, Option.isSome_some]
  | deadline busy => rw [busy, Option.isSome_some]

/-- What settles the response in flight frees the stream, and queues nothing. -/
theorem Settles.freed (settles : stream.Settles event) (tracks : stream.session.Tracks) :
    stream.Freed (stream.receive event) := by
  -- Giving up a response touches nothing but what is in flight.
  cases settles with
  | deadline _ => exact ⟨rfl, rfl, fun _ => rfl⟩
  | @answer flight request busy answer names =>
    refine ⟨?_, rfl, tracks.stands_handle busy answer names⟩
    -- An answer to the response in flight frees the stream, and another request does not settle it.
    rcases tracks.inFlight_handle busy request with ⟨_, free⟩ | ⟨foreign, _⟩
    · exact free
    · exact absurd answer foreign

/-- With nothing in flight and nothing queued nothing is sent. -/
theorem push_of_pending_nil (free : stream.session.inFlight = none)
    (done : stream.session.pending = []) (nonce : String) (now : Duration) :
    stream.push nonce now = (stream, none) := by
  -- Nothing is taken off an empty queue.
  simp [push, Session.next, free, done]

/-- With nothing in flight the first kind that waits is sent. -/
theorem push_of_pending_cons {kind : ResourceKind} {rest : List ResourceKind}
    (free : stream.session.inFlight = none) (waiting : stream.session.pending = kind :: rest)
    (nonce : String) (now : Duration) :
    stream.push nonce now =
      (stream.afterSending kind nonce now, some (stream.response kind nonce)) := by
  -- What is sent is what stands first in the queue.
  simp [push, Session.next, free, waiting, afterSending]

/-- What is sent is in flight, together with what was in flight before. -/
theorem length_push (stream : Stream) (nonce : String) (now : Duration) :
    (stream.push nonce now).2.toList.length + stream.session.inFlight.toList.length =
      (stream.push nonce now).1.session.inFlight.toList.length := by
  cases busy : stream.session.inFlight with
  | some flight =>
    -- Whoever waits for an answer sends nothing.
    rw [push_of_inFlight busy, busy]
    rfl
  | none =>
    cases waiting : stream.session.pending with
    | nil =>
      -- Nothing waits, so nothing is sent and nothing is in flight.
      rw [push_of_pending_nil busy waiting, busy]
      rfl
    | cons kind rest =>
      -- One response is sent, and it is the one in flight.
      rw [push_of_pending_cons busy waiting]
      rfl

/-- After the first kind that waits is sent the others wait. -/
theorem pending_afterSending {kind : ResourceKind} {rest : List ResourceKind}
    (waiting : stream.session.pending = kind :: rest) (nonce : String) (now : Duration) :
    (stream.afterSending kind nonce now).session.pending = rest := by
  -- What is queued still is what was queued, without the kind.
  have queued : ∀ other, ((stream.afterSending kind nonce now).session.of other).queued =
      ((stream.session.of other).queued && decide (other ≠ kind)) := by
    intro other
    rw [of_afterSending]
    by_cases same : kind = other
    · simp [same]
    · simp [same, Ne.symm same]
  have less : (stream.afterSending kind nonce now).session.pending =
      -- The kinds that wait are those that are queued.
      stream.session.pending.filter fun other => other ≠ kind := by
    simp only [Session.pending, queued, List.filter_filter, Bool.and_comm]
  -- No other kind in the queue has the rank of the first one.
  have apart : ∀ other ∈ rest, other ≠ kind := by
    intro other later same
    have ascending := stream.session.pending_ascending
    rw [waiting] at ascending
    exact absurd ((List.pairwise_cons.mp ascending).1 other later) (same ▸ Nat.lt_irrefl _)
  rw [less, waiting, List.filter_cons_of_neg (by simp), List.filter_eq_self]
  exact fun other later => decide_eq_true (apart other later)

/-- Whether a stream has sent some responses since it was changed by a new snapshot: the kinds that
waited then, in their order and each built from the snapshot, and those left wait still. -/
structure Drains (changed : Stream) (sent : List DiscoveryResponse) (stream : Stream) : Prop where
  current : stream.current = changed.current
  queue : sent.map DiscoveryResponse.kind ++ stream.session.pending = changed.session.pending
  built : ∀ response ∈ sent, response.version = changed.current.version ∧
    response.resources = Wire.encode response.kind
      (changed.session.of response.kind).names.items changed.current.resources
  logged : ∀ response ∈ sent, (stream.session.of response.kind).lastSent =
    some ⟨changed.current.version, response.nonce⟩
  others : ∀ kind, kind ∉ sent.map DiscoveryResponse.kind →
    (stream.session.of kind).lastSent = (changed.session.of kind).lastSent
  asked : ∀ kind, (stream.session.of kind).subscribed = (changed.session.of kind).subscribed ∧
    (stream.session.of kind).names = (changed.session.of kind).names

/-- A stream that was just changed has sent nothing since. -/
theorem drains_self (changed : Stream) : changed.Drains [] changed where
  current := rfl
  queue := rfl
  built _ member := absurd member List.not_mem_nil
  logged _ member := absurd member List.not_mem_nil
  others _ _ := rfl
  asked _ := ⟨rfl, rfl⟩

/-- A stream that is freed has sent what it had sent, and has as much left to send. -/
theorem Drains.freed {after : Stream} (drains : changed.Drains sent stream)
    (freed : stream.Freed after) : changed.Drains sent after where
  current := freed.current.trans drains.current
  queue := by
    -- Standing as before, every kind waits if it did.
    have same : after.session.pending = stream.session.pending :=
      Session.pending_congr fun kind => by rw [freed.kinds kind]
    rw [same, drains.queue]
  built := drains.built
  logged response member := by
    rw [freed.kinds response.kind]
    exact drains.logged response member
  others kind unsent := by
    rw [freed.kinds kind]
    exact drains.others kind unsent
  asked kind := by
    rw [freed.kinds kind]
    exact drains.asked kind

/-- A free stream sends the next kind that waits. -/
theorem Drains.push (drains : changed.Drains sent stream)
    (free : stream.session.inFlight = none) (nonce : String) (now : Duration) :
    changed.Drains (sent ++ (stream.push nonce now).2.toList) (stream.push nonce now).1 := by
  cases waiting : stream.session.pending with
  | nil =>
    -- Nothing waits any more, so nothing is sent.
    rw [push_of_pending_nil free waiting, Option.toList_none, List.append_nil]
    exact drains
  | cons kind rest =>
    -- The first kind is sent, and the others are left.
    have left := pending_afterSending waiting nonce now
    rw [push_of_pending_cons free waiting, Option.toList_some]
    have queue : sent.map DiscoveryResponse.kind ++ kind :: rest = changed.session.pending :=
      waiting ▸ drains.queue
    -- The queue is in the order of the ranks, so no kind comes twice.
    have unsent : ∀ response ∈ sent, kind ≠ response.kind := by
      intro response member same
      have ascending := changed.session.pending_ascending
      rw [← queue] at ascending
      exact absurd ((List.pairwise_append.mp ascending).2.2 response.kind
        (List.mem_map_of_mem member) kind List.mem_cons_self) (same ▸ Nat.lt_irrefl _)
    constructor
    · -- The snapshot stays the one that was shown.
      exact drains.current
    · rw [left, ← queue]
      simp [response]
    · -- The new response is built from the snapshot and the names on record.
      intro response member
      rcases List.mem_append.mp member with before | only
      · exact drains.built response before
      · cases List.mem_singleton.mp only
        exact ⟨congrArg Snapshot.version drains.current, by
          simp [Stream.response, drains.current, (drains.asked kind).2]⟩
    · -- The new response is remembered as sent, and those before it are of other kinds.
      intro response member
      rw [of_afterSending]
      rcases List.mem_append.mp member with before | only
      · rw [if_neg (unsent response before)]
        exact drains.logged response before
      · cases List.mem_singleton.mp only
        simp [Stream.response, drains.current]
    · -- A kind that was not sent is not the one that is sent now.
      intro other missing
      have apart : kind ≠ other := by
        rintro rfl
        simp [response] at missing
      rw [of_afterSending, if_neg apart]
      exact drains.others other fun member => missing (by simp [member])
    · -- Sending leaves what was asked for.
      intro other
      rw [of_afterSending]
      split
      · rename_i same
        exact same ▸ drains.asked kind
      · exact drains.asked other

/-- Once nothing waits all kinds that waited were sent, and every subscribed kind was last sent at
the version of the snapshot. -/
theorem Drains.drained {before : Stream} {snapshot : Snapshot}
    (drains : (before.receive (.snapshot snapshot)).Drains sent stream)
    (done : stream.session.pending = []) :
    sent.map DiscoveryResponse.kind = (before.receive (.snapshot snapshot)).session.pending ∧
      ∀ kind, (stream.session.of kind).subscribed = true →
        (stream.session.of kind).lastSent.map Sent.version = some snapshot.version := by
  -- Nothing waits, so all of the queue was sent.
  have whole := drains.queue
  rw [done, List.append_nil] at whole
  refine ⟨whole, fun kind subscribed => ?_⟩
  by_cases member : kind ∈ sent.map DiscoveryResponse.kind
  · -- What waited was sent, and at the version of the snapshot.
    obtain ⟨response, among, rfl⟩ := List.mem_map.mp member
    rw [drains.logged response among]
    rfl
  · -- What did not wait was sent at the version before.
    rw [drains.others kind member]
    rw [whole, Session.mem_pending, Bool.not_eq_true] at member
    rw [(drains.asked kind).1] at subscribed
    have same := (before.session.onSnapshot_owes snapshot.version kind).1
    exact (congrArg _ same).trans (Session.sent_of_onSnapshot _ subscribed member)

/-- Once the version of a response that was sent since is accepted it stays so, whatever settles the
responses after it. -/
theorem Drains.accepted_receive (drains : changed.Drains sent stream) {response : DiscoveryResponse}
    (member : response ∈ sent) (event : StreamEvent)
    (accepted : (stream.session.of response.kind).accepted = some changed.current.version) :
    ((stream.receive event).session.of response.kind).accepted = some changed.current.version := by
  -- Either the event accepts nothing for the kind, or it acknowledges what was sent last.
  rcases stream.accepted_receive event response.kind with
    same | ⟨request, version, _, answer, _, acknowledged⟩
  · exact same.trans accepted
  · -- What is accepted is the version that was sent last.
    have last := (drains.logged response member).symm.trans answer.last
    rw [acknowledged, (Sent.mk.inj (Option.some.inj last)).1]

end Stream

end ControlPlane
