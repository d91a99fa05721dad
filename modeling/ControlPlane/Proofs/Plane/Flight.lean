import ControlPlane.Proofs.Discovery.Flight
import ControlPlane.Proofs.Plane.Delivery

/-! One response in flight: between two responses on a stream there is an answer to the first, or
its deadline. -/

namespace ControlPlane.Plane

variable {plane : Plane} {event : Event} {name : String} {connection : Connection}
  {stream : Stream} {responses : List DiscoveryResponse} {flight : InFlight} {deadline : Duration}

/-- Whether every stream knows of the response in flight that it is the last one of its kind. -/
def Tracked (plane : Plane) : Prop :=
  ∀ name connection stream, plane.connections.get? name = some connection →
    connection.phase = .serving stream → stream.session.Tracks

/-- Whatever a stream is given, it tracks the response in flight. -/
theorem Given.tracks {watcher : Option Watcher}
    (given : plane.Given name connection event stream watcher) (tracked : plane.Tracked)
    (found : plane.connections.get? name = some connection) : stream.session.Tracks := by
  -- A new stream has nothing in flight, and what a stream is told keeps its records in step.
  cases given with
  | opened _ => exact (Session.tracks_new _).handle _
  | requested serving => exact Stream.tracks_receive (tracked _ _ _ found serving) _
  | woken serving _ _ => exact Stream.tracks_receive (tracked _ _ _ found serving) _
  | overdue serving _ => exact Stream.tracks_receive (tracked _ _ _ found serving) _

/-- Every turn leaves all streams tracking. -/
theorem Tracked.turn (tracked : plane.Tracked) (event : Event) : (plane.turn event).Tracked := by
  intro name connection stream found serving
  -- Only a stream that is served has anything in flight.
  cases plane.turned event name with
  | untouched same => exact tracked name connection stream (same.1.symm.trans found) serving
  | begun _ here =>
    cases here.symm.trans found
    cases serving
  | ended _ here =>
    cases here.symm.trans found
    cases serving
  | deafened _ waiting here =>
    cases here.symm.trans found
    cases waiting.symm.trans serving
  | served was given here _ =>
    -- The stream tracks what it was given, and then what it sent.
    cases here.symm.trans found
    cases serving
    exact Stream.tracks_push (given.tracks tracked was) ..

/-- Any turns leave all streams tracking. -/
theorem Tracked.turns (tracked : plane.Tracked) (events : List Event) :
    (plane.turns events).Tracked :=
  turns_induction Tracked tracked fun event _ _ before => before.turn event

/-- Whether an event frees a stream from the response that it waits for: a request that answers the
response, or the deadline when it is over. -/
def Releases (plane : Plane) (name : String) (flight : InFlight) (deadline : Duration) :
    Event → Prop
  | .request other request => other = name ∧ flight.AnsweredBy request
  | .overdue other => other = name ∧ deadline.nanoseconds ≤ plane.now.nanoseconds
  | _ => False

/-- Whether the stream of a name, on which some responses were sent, waits for the answer to one of
them until a deadline. -/
structure Awaits (plane : Plane) (name : String) (responses : List DiscoveryResponse)
    (flight : InFlight) (deadline : Duration) (connection : Connection) (stream : Stream) :
    Prop where
  found : plane.connections.get? name = some connection
  sent : connection.responses = responses
  serving : connection.phase = .serving stream
  inFlight : stream.session.inFlight = some flight
  deadline : stream.session.deadline plane.ackTimeout = some deadline

/-- Whether a stream waits for the answer to a response, or has ended without another response. -/
def Holds (plane : Plane) (name : String) (responses : List DiscoveryResponse)
    (flight : InFlight) (deadline : Duration) : Prop :=
  (∃ connection, plane.connections.get? name = some connection ∧
    connection.responses = responses ∧ connection.phase = .ended) ∨
  ∃ connection stream, plane.Awaits name responses flight deadline connection stream

/-- Whether a stream that was sent some responses waits no longer for an answer: it sends the next
response, which is then in flight, or nothing is due. It may also have ended. -/
def Freed (plane : Plane) (name : String) (responses : List DiscoveryResponse) : Prop :=
  ∃ connection, plane.connections.get? name = some connection ∧
    (connection.phase = .ended ∧ connection.responses = responses ∨
      ∃ stream, connection.phase = .serving stream ∧
        (connection.responses = responses ∧ stream.session.inFlight = none ∧
            stream.session.pending = [] ∨
          ∃ next, connection.responses = responses ++ [next] ∧
            stream.session.inFlight = some ⟨next.kind, next.nonce, plane.now⟩))

/-- What a stream is given leaves it waiting, unless it is released. -/
theorem Given.inFlight {watcher : Option Watcher} {next : Stream}
    (given : plane.Given name connection event next watcher) (tracked : plane.Tracked)
    (awaits : plane.Awaits name responses flight deadline connection stream)
    (kept : ¬ plane.Releases name flight deadline event) :
    next.session.inFlight = some flight := by
  have tracks := tracked name connection stream awaits.found awaits.serving
  cases given with
  | opened waiting => cases waiting.symm.trans awaits.serving
  | @requested request _ serving =>
    -- A request that does not release the stream is no answer to what is in flight.
    cases serving.symm.trans awaits.serving
    refine Stream.inFlight_receive tracks awaits.inFlight (fun other same answer => ?_) (by simp)
    cases same
    exact kept ⟨rfl, answer⟩
  | woken serving _ _ =>
    -- A new snapshot queues what it has to, and leaves the response in flight.
    cases serving.symm.trans awaits.serving
    exact awaits.inFlight
  | overdue serving late =>
    -- What is overdue is past its deadline.
    cases serving.symm.trans awaits.serving
    rw [isOverdue, awaits.deadline, Option.any_some] at late
    exact absurd ⟨rfl, of_decide_eq_true late⟩ kept

/-- A stream that waits goes on to do so in a turn that does not release it, or it ends. -/
theorem Awaits.turn (awaits : plane.Awaits name responses flight deadline connection stream)
    (tracked : plane.Tracked) (stays : event ≠ .opened name)
    (kept : ¬ plane.Releases name flight deadline event) :
    (plane.turn event).Holds name responses flight deadline := by
  -- The deadline is told by the response in flight, and by a patience that does not change.
  have due : ∀ next : Stream, next.session.inFlight = some flight →
      next.session.deadline (plane.turn event).ackTimeout = some deadline := fun next busy => by
    rw [← awaits.deadline, Session.deadline, Session.deadline, busy, awaits.inFlight,
      ackTimeout_turn]
  cases plane.turned event name with
  | untouched same =>
    exact Or.inr ⟨connection, stream, same.1.trans awaits.found, awaits.sent, awaits.serving,
      awaits.inFlight, due stream awaits.inFlight⟩
  | begun opened _ => exact absurd opened stays
  | ended was ends =>
    cases was.symm.trans awaits.found
    exact Or.inl ⟨_, ends, awaits.sent, rfl⟩
  | deafened was waiting _ =>
    cases was.symm.trans awaits.found
    cases waiting.symm.trans awaits.serving
  | @served _ next _ was given sent _ =>
    -- With the response still in flight nothing is sent.
    cases was.symm.trans awaits.found
    have busy := given.inFlight tracked awaits kept
    rw [sentOn, Stream.push_of_inFlight busy, Option.toList_none, List.append_nil] at sent
    exact Or.inr ⟨_, next, sent, awaits.sent, rfl, busy, due next busy⟩

/-- A connection that has ended stays as it is unless it is replaced. -/
theorem ended_turn (found : plane.connections.get? name = some connection)
    (ended : connection.phase = .ended) (stays : event ≠ .opened name) :
    ∃ after, (plane.turn event).connections.get? name = some after ∧
      after.responses = connection.responses ∧ after.phase = .ended := by
  cases plane.turned event name with
  | untouched same => exact ⟨connection, same.1.trans found, rfl, ended⟩
  | begun opened _ => exact absurd opened stays
  | ended was ends =>
    cases was.symm.trans found
    exact ⟨_, ends, rfl, rfl⟩
  | deafened was waiting _ =>
    cases was.symm.trans found
    cases waiting.symm.trans ended
  | served was given _ _ =>
    -- Nothing is given to a stream that has ended.
    cases was.symm.trans found
    cases given with
    | opened waiting => cases waiting.symm.trans ended
    | requested serving => cases serving.symm.trans ended
    | woken serving _ _ => cases serving.symm.trans ended
    | overdue serving _ => cases serving.symm.trans ended

/-- A stream with nothing in flight that is served sends what is due, unless nobody hears it. -/
theorem freed_serve (free : stream.session.inFlight = none) :
    (plane.serve name connection stream).Freed name connection.responses := by
  unfold serve
  split
  · let nonce := plane.nonceOf connection.responses.length
    have found : (plane.put name (plane.sentOn connection stream)).connections.get? name =
        some (plane.sentOn connection stream) := (get?_put ..).trans (if_pos rfl)
    refine ⟨plane.sentOn connection stream, found, Or.inr ⟨_, rfl, ?_⟩⟩
    rcases stream.push_cases nonce plane.now with ⟨waits, silent⟩ | ⟨kind, _, _, sends⟩
    · -- Nothing is in flight, so nothing is queued.
      have settled := waits.resolve_left (by simp [free])
      rw [sentOn, silent]
      exact Or.inl ⟨List.append_nil _, free,
        List.filter_eq_nil_iff.mpr fun kind _ => by simp [settled kind]⟩
    · rw [sentOn, sends]
      exact Or.inr ⟨_, rfl, rfl⟩
  · exact ⟨_, get?_finish .., Or.inl ⟨rfl, rfl⟩⟩

/-- What releases a stream frees it. -/
theorem Awaits.freed (awaits : plane.Awaits name responses flight deadline connection stream)
    (tracked : plane.Tracked) (releases : plane.Releases name flight deadline event) :
    (plane.turn event).Freed name responses := by
  have tracks := tracked name connection stream awaits.found awaits.serving
  rw [← awaits.sent]
  cases event with
  | request other request =>
    -- The answer clears what is in flight, whether it rejects the response or not.
    obtain ⟨rfl, answer⟩ := releases
    have serves : plane.turn (.request other request) =
        plane.serve other connection (stream.receive (.request request)) := by
      simp only [Plane.turn, Plane.request, awaits.found, awaits.serving]
    rw [serves]
    rcases tracks.inFlight_handle awaits.inFlight request with ⟨_, free⟩ | ⟨foreign, _⟩
    · exact freed_serve free
    · exact absurd answer foreign
  | overdue other =>
    -- Past the deadline the response is given up.
    obtain ⟨rfl, late⟩ := releases
    have overdue : plane.isOverdue stream = true := by
      rw [isOverdue, awaits.deadline]
      exact decide_eq_true late
    have serves : plane.turn (.overdue other) =
        plane.serve other connection (stream.receive .deadline) := by
      simp only [Plane.turn, expire, awaits.found, awaits.serving, overdue, if_true]
    rw [serves]
    exact freed_serve rfl
  | _ => exact releases.elim

/-- In any turns a stream goes on waiting for the answer to its response, or one of them releases
it, after which it sends what is due. -/
theorem Awaits.holds_or_released
    (awaits : plane.Awaits name responses flight deadline connection stream)
    (tracked : plane.Tracked) (later : List Event) (stays : .opened name ∉ later) :
    (plane.turns later).Holds name responses flight deadline ∨
      ∃ earlier release rest, later = earlier ++ release :: rest ∧
        (∃ connection stream,
          (plane.turns earlier).Awaits name responses flight deadline connection stream) ∧
        (plane.turns earlier).Releases name flight deadline release ∧
        ((plane.turns earlier).turn release).Freed name responses := by
  -- The induction is on the last turn; what has been released before it stays so.
  induction later using List.reverseRecOn with
  | nil => exact Or.inl (Or.inr ⟨connection, stream, awaits⟩)
  | append_singleton later event ih =>
    obtain ⟨quiet, still⟩ := opened_notMem_concat.mp stays
    rw [turns_concat]
    rcases ih quiet with
      (⟨gone, found, sent, ended⟩ | ⟨_, _, awaiting⟩) | ⟨earlier, release, rest, same, released⟩
    · -- What has ended neither waits nor sends.
      obtain ⟨after, found, kept, ended⟩ := ended_turn found ended still
      exact Or.inl (Or.inl ⟨after, found, kept.trans sent, ended⟩)
    · have tracks := tracked.turns later
      by_cases releases : (plane.turns later).Releases name flight deadline event
      · exact Or.inr ⟨later, event, [], rfl, ⟨_, _, awaiting⟩, releases,
          awaiting.freed tracks releases⟩
      · exact Or.inl (awaiting.turn tracks still releases)
    · exact Or.inr ⟨earlier, release, rest ++ [event], by simp [same], released⟩

/-- Whether the nonces on every connection are those of the places of their responses. -/
def Numbered (plane : Plane) : Prop :=
  ∀ name connection, plane.connections.get? name = some connection →
    connection.responses.map DiscoveryResponse.nonce =
      (List.range connection.responses.length).map plane.nonceOf

/-- Every turn keeps the responses numbered. -/
theorem Numbered.turn (numbered : plane.Numbered) (event : Event) :
    (plane.turn event).Numbered := by
  intro name connection found
  rw [(plane.sameSettings_turn event).2]
  cases plane.turned event name with
  | untouched same => exact numbered name connection (same.1.symm.trans found)
  | begun _ here =>
    cases here.symm.trans found
    rfl
  | @ended connection _ was here =>
    cases here.symm.trans found
    exact numbered name connection was
  | @deafened connection was _ here =>
    cases here.symm.trans found
    exact numbered name connection was
  | @served connection stream _ was _ here _ =>
    cases here.symm.trans found
    have before := numbered name connection was
    rcases stream.push_cases (plane.nonceOf connection.responses.length) plane.now with
      ⟨_, silent⟩ | ⟨kind, _, _, sends⟩
    · simpa only [sentOn, silent, Option.toList_none, List.append_nil] using before
    · -- The nonce of one more response is that of the next place.
      simp only [sentOn, sends, Option.toList_some, List.map_append, before, List.length_append,
        List.length_singleton, List.range_succ, List.map_singleton]
      rfl

/-- Once a response is sent it is the only one in flight: in any later turns of the stream nothing
else is sent and the deadline stays, until a request answers the response or its deadline is over;
then the stream is free to send what is due. So between two responses there is always such an answer
or such a deadline. If nonces are fresh, no response before it has its nonce, and late answers to
those do not count. Requests that are stale or of an unknown type leave a session as it is. -/
theorem one_in_flight (compileOptions : CompileOptions) (listener : ListenerSettings)
    (maxExtracted : Nat) (ackTimeout : Duration) (nonceOf : Nat → String) (events : List Event)
    (event : Event) {name : String} {old new : Connection} {response : DiscoveryResponse}
    (was : ((idle compileOptions listener maxExtracted ackTimeout nonceOf).turns
      events).connections.get? name = some old)
    (found : (((idle compileOptions listener maxExtracted ackTimeout nonceOf).turns
      events).turn event).connections.get? name = some new)
    (sent : new.responses = old.responses ++ [response]) :
    let before := (idle compileOptions listener maxExtracted ackTimeout nonceOf).turns events
    let after := before.turn event
    let flight : InFlight := ⟨response.kind, response.nonce, before.now⟩
    let deadline : Duration := ⟨before.now.nanoseconds + ackTimeout.nanoseconds⟩
    (∃ stream, after.Awaits name new.responses flight deadline new stream) ∧
    (∀ later, .opened name ∉ later →
      (after.turns later).Holds name new.responses flight deadline ∨
      ∃ earlier release rest, later = earlier ++ release :: rest ∧
        (∃ connection stream, (after.turns earlier).Awaits name new.responses flight deadline
          connection stream) ∧
        (after.turns earlier).Releases name flight deadline release ∧
        ((after.turns earlier).turn release).Freed name new.responses) ∧
    (Function.Injective nonceOf → ∀ other ∈ old.responses, other.nonce ≠ response.nonce) ∧
    ∀ (session : Session) (request : DiscoveryRequest),
      ((∃ kind, (session.handle request).2 = .stale kind) ∨
        ∃ url, (session.handle request).2 = .unknownType url) →
      (session.handle request).1 = session := by
  intro before after flight deadline
  have settings : before.ackTimeout = ackTimeout ∧ before.nonceOf = nonceOf :=
    turns_induction (fun plane => plane.ackTimeout = ackTimeout ∧ plane.nonceOf = nonceOf)
      ⟨rfl, rfl⟩ fun event _ plane same =>
        have kept := plane.sameSettings_turn event
        ⟨kept.1.trans same.1, kept.2.trans same.2⟩
  have tracked : before.Tracked :=
    Tracked.turns (fun _ _ _ found => by cases found) events
  obtain ⟨_, _, stream, _, pushed, serving⟩ := (before.turned event name).sent was found sent
  obtain ⟨flying, nonce⟩ := Stream.inFlight_of_push pushed
  have awaits : after.Awaits name new.responses flight deadline new stream := by
    refine ⟨found, rfl, serving, flying, ?_⟩
    rw [(before.sameSettings_turn event).1, settings.1, Session.deadline, flying]
    rfl
  refine ⟨⟨stream, awaits⟩, awaits.holds_or_released (tracked.turn event),
    fun injective other member => ?_, fun session request => Session.handle_eq_self⟩
  -- The nonce of a response is that of its place, and the others have earlier places.
  have numbered : before.Numbered :=
    turns_induction Numbered (fun _ _ found => by cases found) fun event _ _ kept => kept.turn event
  have placed : other.nonce ∈ old.responses.map DiscoveryResponse.nonce :=
    List.mem_map_of_mem member
  rw [numbered name old was, settings.2] at placed
  obtain ⟨place, inside, own⟩ := List.mem_map.mp placed
  rw [nonce, settings.2, ← own]
  exact fun equal => absurd (injective equal) (Nat.ne_of_lt (List.mem_range.mp inside))

/-- After the first request a response is in flight, and a second one is sent: so the first one was
answered in between, or it was overdue. -/
theorem one_in_flight_lateAnswer :
    let before := (idle {} ⟨"default", "0.0.0.0", 9090, none⟩ 0 (.ofSeconds 30) countedNonce).turns
      (lateAnswer.take 1)
    let first : Event := .request "edge" ⟨ResourceKind.cluster.typeUrl, "", [], none, none⟩
    ∃ earlier release rest, lateAnswer = .opened "edge" :: first :: (earlier ++ release :: rest) ∧
      ((before.turn first).turns earlier).Releases "edge" ⟨.cluster, "n1", ⟨0⟩⟩ (.ofSeconds 30)
        release := by
  intro before first
  let response : DiscoveryResponse := ⟨.cluster, 0, "n1", []⟩
  let later := lateAnswer.drop 2
  have was : before.connections.get? "edge" = some {} := by rfl
  -- What is sent is computed, then and until the end.
  have computed : ((before.turn first).connections.get? "edge").map Connection.responses =
      some [response] := by decide +kernel
  have more : (((before.turn first).turns later).connections.get? "edge").map
      Connection.responses = some [response, ⟨.cluster, 1, "n2", []⟩] := by decide +kernel
  obtain ⟨new, found, sent⟩ := Option.map_eq_some_iff.mp computed
  obtain ⟨_, dichotomy, _⟩ := one_in_flight {} ⟨"default", "0.0.0.0", 9090, none⟩ 0
    (.ofSeconds 30) countedNonce (lateAnswer.take 1) first was found sent
  rcases dichotomy later (by simp [later, lateAnswer]) with
    (⟨connection, here, same, _⟩ | ⟨connection, stream, awaits⟩) |
      ⟨earlier, release, rest, split, _, released, _⟩
  · rw [here, Option.map_some, same, sent] at more
    cases more
  · rw [awaits.found, Option.map_some, awaits.sent, sent] at more
    cases more
  · exact ⟨earlier, release, rest, by rw [← split]; rfl, released⟩

end ControlPlane.Plane
