import ControlPlane.Proofs.Discovery.Drain
import ControlPlane.Proofs.Plane.Flight
import ControlPlane.Proofs.Plane.Versions

/-! A change drains once: after a stream was shown a new version, the answers and the deadlines of
its responses make it send each kind that waited, once and in order, and then nothing more. -/

namespace ControlPlane.Plane

variable {start plane : Plane} {later : List Event} {event : Event} {name : String}
  {connection old : Connection} {stream changed : Stream} {sent : List DiscoveryResponse}
  {count : Nat}

/-- The name of the stream that an event is about. -/
def Event.name? : Event → Option String
  | .opened name | .request name _ | .woken name | .overdue name | .closed name | .deafened name =>
    some name
  | .command _ | .published _ _ | .elapsed _ | .stopped => none

/-- A turn leaves the connections that its event is not about. -/
theorem get?_turn_of_ne (plane : Plane) (aside : event.name? ≠ some name) :
    (plane.turn event).connections.get? name = plane.connections.get? name := by
  -- An event that is about a stream is about another one here.
  have apart : ∀ other, event.name? = some other → other ≠ name := fun other about same =>
    aside (same ▸ about)
  -- Commands, publications, time and the end are about no stream, the others about one each.
  cases event with
  | command _ => rfl
  | published _ _ => rfl
  | opened other => exact ((plane.turnOf_connect other).concerns.others name (apart other rfl)).1
  | request other request =>
    exact ((plane.turnOf_request other request).concerns.others name (apart other rfl)).1
  | woken other => exact ((plane.turnOf_showNews other).concerns.others name (apart other rfl)).1
  | overdue other => exact ((plane.turnOf_expire other).concerns.others name (apart other rfl)).1
  | closed other => exact ((plane.turnOf_close other).concerns.others name (apart other rfl)).1
  | deafened other => exact ((plane.turnOf_deafen other).concerns.others name (apart other rfl)).1
  | elapsed _ => rfl
  | stopped => rfl

/-- Whether every stream that is served has a subscriber who takes its responses. -/
def Heard (plane : Plane) : Prop :=
  ∀ name connection stream, plane.connections.get? name = some connection →
    connection.phase = .serving stream → connection.isHeard = true

/-- Without a subscriber who takes responses no stream is served. -/
theorem serve_of_not_isHeard (deaf : connection.isHeard = false) :
    ∃ after, (plane.serve name connection stream).connections.get? name = some after ∧
      after.phase = .ended := by
  -- The stream is ended without sending anything.
  refine ⟨{ connection with phase := .ended }, ?_, rfl⟩
  rw [serve, deaf, if_neg Bool.false_ne_true]
  exact get?_finish ..

/-- A stream with a subscriber sends what is due. -/
theorem get?_serve_of_isHeard (heard : connection.isHeard = true) :
    (plane.serve name connection stream).connections.get? name =
      some (plane.sentOn connection stream) := by
  -- Serving puts the connection with what was sent.
  unfold serve
  rw [if_pos heard]
  exact (get?_put ..).trans (if_pos rfl)

/-- Every turn leaves all streams heard. -/
theorem Heard.turn (heard : plane.Heard) (event : Event) : (plane.turn event).Heard := by
  -- The cases are those of a turn for this name.
  intro name connection stream found serving
  cases plane.turned event name with
  | untouched same => exact heard name connection stream (same.1.symm.trans found) serving
  | begun _ here =>
    cases here.symm.trans found
    cases serving
  | ended _ here =>
    cases here.symm.trans found
    cases serving
  | deafened _ waiting here =>
    cases here.symm.trans found
    cases waiting.symm.trans serving
  | @served before _ _ was given here _ =>
    cases here.symm.trans found
    show before.isHeard = true
    -- Who was heard before is heard now; only a first request serves a new stream.
    cases given with
    | requested serving' => exact heard name before _ was serving'
    | woken serving' _ _ => exact heard name before _ was serving'
    | overdue serving' _ => exact heard name before _ was serving'
    | @opened request waiting =>
      -- The first request on a connection that nobody hears ends it.
      by_contra deaf
      rw [Bool.not_eq_true] at deaf
      have ends : ∃ after, (plane.turn (.request name request)).connections.get? name = some after ∧
          after.phase = .ended := by
        simp only [Plane.turn, Plane.request, was, waiting]
        exact serve_of_not_isHeard deaf
      obtain ⟨after, here', ended⟩ := ends
      cases here.symm.trans here'
      cases ended

/-- Any turns leave all streams heard. -/
theorem Heard.turns (heard : plane.Heard) (events : List Event) : (plane.turns events).Heard :=
  turns_induction Heard heard fun event _ _ before => before.turn event

/-- Whether an event settles the response in flight on the stream of a name: it is an answer with
the names on record, or the deadline when it is over. -/
inductive Settles (plane : Plane) (name : String) : Event → Prop where
  | answer {connection : Connection} {stream : Stream} {request : DiscoveryRequest}
    (found : plane.connections.get? name = some connection)
    (serving : connection.phase = .serving stream)
    (settles : stream.Settles (.request request)) : Settles plane name (.request name request)
  | deadline {connection : Connection} {stream : Stream}
    (found : plane.connections.get? name = some connection)
    (serving : connection.phase = .serving stream)
    (late : plane.isOverdue stream = true) : Settles plane name (.overdue name)

/-- Whether nothing but some number of settlements happens to the stream of a name in turns; what
happens aside from it does not count. -/
inductive Settling (start : Plane) (name : String) : List Event → Nat → Prop where
  | nil : Settling start name [] 0
  | aside {later : List Event} {event : Event} {count : Nat}
    (settling : Settling start name later count) (apart : event.name? ≠ some name) :
    Settling start name (later ++ [event]) count
  | settle {later : List Event} {event : Event} {count : Nat}
    (settling : Settling start name later count)
    (settles : (start.turns later).Settles name event) :
    Settling start name (later ++ [event]) (count + 1)

/-- An overdue response is in flight. -/
theorem settles_of_isOverdue (late : plane.isOverdue stream = true) :
    stream.Settles .deadline := by
  -- Only what is in flight has a deadline.
  unfold isOverdue Session.deadline at late
  cases busy : stream.session.inFlight with
  | none =>
    rw [busy] at late
    cases late
  | some flight => exact .deadline busy

/-- What settles the response in flight has the stream send what is due. -/
theorem Settles.served (settles : plane.Settles name event)
    (found : plane.connections.get? name = some connection)
    (serving : connection.phase = .serving stream) (heard : connection.isHeard = true) :
    ∃ told, stream.Settles told ∧
      (∀ request, event = .request name request ↔ told = .request request) ∧
      (plane.turn event).connections.get? name =
        some (plane.sentOn connection (stream.receive told)) := by
  -- Both ways of settling are given to the stream, and then it is served.
  cases settles with
  | @answer other same request found' serving' settles =>
    cases found'.symm.trans found
    cases serving'.symm.trans serving
    refine ⟨.request request, settles, fun _ => by simp, ?_⟩
    simp only [Plane.turn, Plane.request, found, serving]
    exact get?_serve_of_isHeard heard
  | deadline found' serving' late =>
    -- A deadline that is over is that of a response in flight.
    cases found'.symm.trans found
    cases serving'.symm.trans serving
    refine ⟨.deadline, settles_of_isOverdue late, fun _ => by simp, ?_⟩
    simp only [Plane.turn, expire, found, serving, late, if_true]
    exact get?_serve_of_isHeard heard

/-- Whether the stream of a name drains: after some settlements in turns it has sent some responses,
all of them since it was changed, and each settlement is followed by one unless nothing waits. -/
structure Draining (start : Plane) (name : String) (before : List DiscoveryResponse)
    (changed : Stream) (later : List Event) (count : Nat) (connection : Connection)
    (stream : Stream) (sent : List DiscoveryResponse) : Prop where
  found : (start.turns later).connections.get? name = some connection
  serving : connection.phase = .serving stream
  responses : connection.responses = before ++ sent
  drains : changed.Drains sent stream
  waits : stream.Waits
  settled : sent.length + changed.session.inFlight.toList.length =
    count + stream.session.inFlight.toList.length
  known : ∀ response, During name later (start.Acknowledges name response) →
    response ∈ connection.responses
  accepted : ∀ response ∈ sent, During name later (start.Acknowledges name response) →
    (stream.session.of response.kind).accepted = some changed.current.version

/-- A stream that was changed in a turn begins to drain in it, or waits for the response in
flight. -/
theorem draining_start
    (found : start.connections.get? name = some (plane.sentOn old changed)) :
    start.Draining name old.responses changed [] 0 (plane.sentOn old changed)
      (changed.push (plane.nonceOf old.responses.length) plane.now).1
      (changed.push (plane.nonceOf old.responses.length) plane.now).2.toList where
  found := found
  serving := rfl
  responses := rfl
  drains := by
    -- If nothing is in flight, the first of what is due is sent at once.
    cases busy : changed.session.inFlight with
    | none => simpa using (Stream.drains_self changed).push busy _ _
    | some flight =>
      rw [Stream.push_of_inFlight busy]
      exact Stream.drains_self changed
  waits := changed.waits_push _ _
  settled := by rw [Nat.zero_add, Stream.length_push]
  known response during := by
    -- Nothing was in flight before, and what is sent is in flight afterwards.
    obtain ⟨earlier, event, rest, same, _⟩ := during
    simp at same
  accepted response _ during := by
    obtain ⟨earlier, event, rest, same, _⟩ := during
    simp at same

/-- What happens aside from a stream leaves it draining. -/
theorem Draining.aside {before : List DiscoveryResponse}
    (draining : start.Draining name before changed later count connection stream sent)
    (apart : event.name? ≠ some name) :
    start.Draining name before changed (later ++ [event]) count connection stream sent := by
  -- No request on the stream is among what happens aside from it.
  have earlier : ∀ response, During name (later ++ [event]) (start.Acknowledges name response) →
      During name later (start.Acknowledges name response) := by
    intro response during
    rcases during.of_concat with before | ⟨request, _, rfl, _⟩
    · exact before
    · exact absurd rfl apart
  refine ⟨?_, draining.serving, draining.responses, draining.drains, draining.waits,
    draining.settled, fun response during => draining.known response (earlier response during),
    fun response member during => draining.accepted response member (earlier response during)⟩
  -- The connection is where it was, as the turn is not about it.
  rw [turns_concat, get?_turn_of_ne _ apart]
  exact draining.found

/-- A response that a request echoes in the next turn was there before it. -/
theorem Draining.mem_of_during {before : List DiscoveryResponse}
    (draining : start.Draining name before changed later count connection stream sent)
    {response : DiscoveryResponse}
    (during : During name (later ++ [event]) (start.Acknowledges name response)) :
    response ∈ connection.responses := by
  -- It was acknowledged before, or it was there when the request of this turn came.
  rcases during.of_concat with earlier | ⟨request, old, rfl, was, member, _⟩
  · exact draining.known response earlier
  · cases was.symm.trans draining.found
    exact member

/-- What was sent since the change and is acknowledged by the end of the next turn is accepted, if
the turn settles the response in flight. -/
theorem Draining.accepted_receive {before : List DiscoveryResponse} {told : StreamEvent}
    (draining : start.Draining name before changed later count connection stream sent)
    (tracks : stream.session.Tracks) (settles : stream.Settles told)
    (asked : ∀ request, event = .request name request ↔ told = .request request)
    {response : DiscoveryResponse} (member : response ∈ sent)
    (during : During name (later ++ [event]) (start.Acknowledges name response)) :
    ((stream.receive told).session.of response.kind).accepted = some changed.current.version := by
  rcases during.of_concat with earlier | ⟨request, _, same, _, _, named, own, plain⟩
  · -- It was accepted before, and is so still.
    exact draining.drains.accepted_receive member told (draining.accepted response member earlier)
  · -- The request acknowledges the last response of the kind, which is the one in flight.
    cases (asked request).mp same
    cases settles with
    | @answer flight _ busy answer _ =>
      have kind : flight.kind = response.kind :=
        Option.some.inj (answer.named.symm.trans named)
      have subscribed := (tracks.inFlight flight busy).1
      have last := draining.drains.logged response member
      exact Session.accepted_handle ⟨named, answer.echoes, kind ▸ subscribed, own ▸ last⟩ plain

/-- A settlement has the stream drain further. -/
theorem Draining.settle {before : List DiscoveryResponse}
    (draining : start.Draining name before changed later count connection stream sent)
    (tracked : start.Tracked) (heard : start.Heard)
    (older : ∀ response ∈ before, response.version ≠ changed.current.version)
    (settles : (start.turns later).Settles name event) :
    ∃ next final more, start.Draining name before changed (later ++ [event]) (count + 1) next final
      (sent ++ more) := by
  -- The turn gives the stream what settles the response, and the stream sends what is due after
  -- that.
  let plane := start.turns later
  let nonce := plane.nonceOf connection.responses.length
  have tracks : stream.session.Tracks :=
    tracked.turns later name connection stream draining.found draining.serving
  obtain ⟨told, settles, asked, served⟩ := settles.served draining.found draining.serving
    (heard.turns later name connection stream draining.found draining.serving)
  have freed := settles.freed tracks
  have pushed := (draining.drains.freed freed).push freed.free nonce plane.now
  refine ⟨plane.sentOn connection (stream.receive told),
    ((stream.receive told).push nonce plane.now).1,
    ((stream.receive told).push nonce plane.now).2.toList, ?_⟩
  constructor
  · rw [turns_concat]
    exact served
  · rfl
  · rw [← List.append_assoc, ← draining.responses]
    rfl
  · exact pushed
  · exact Stream.waits_push ..
  · -- The response in flight is settled, and what is sent is in flight in its place.
    have flies := Stream.length_push (stream.receive told) nonce plane.now
    have settled := draining.settled
    obtain ⟨flight, busy⟩ := Option.isSome_iff_exists.mp settles.isSome
    rw [freed.free] at flies
    rw [busy] at settled
    simp only [Option.toList_some, Option.toList_none, List.length_singleton, List.length_nil,
      List.length_append] at flies settled ⊢
    omega
  · -- Nothing that is acknowledged is forgotten.
    intro response during
    exact List.mem_append_left _ (draining.mem_of_during during)
  · intro response member during
    -- A response with the new version was not sent before the change.
    have version := (pushed.built response member).1
    have inside := draining.mem_of_during during
    rw [draining.responses] at inside
    rcases List.mem_append.mp inside with old | since
    · exact absurd version (older response old)
    · rw [Stream.accepted_push]
      exact draining.accepted_receive tracks settles asked since during

/-- Whatever settlements come in whatever turns, the stream drains. -/
theorem Settling.exists_draining {before : List DiscoveryResponse}
    (settling : start.Settling name later count) (tracked : start.Tracked) (heard : start.Heard)
    (older : ∀ response ∈ before, response.version ≠ changed.current.version)
    (begun : ∃ connection stream sent,
      start.Draining name before changed [] 0 connection stream sent) :
    ∃ connection stream sent,
      start.Draining name before changed later count connection stream sent := by
  -- The induction is on the turns: each is aside from the stream, or settles what is in flight.
  induction settling with
  | nil => exact begun
  | aside _ apart ih =>
    obtain ⟨connection, stream, sent, draining⟩ := ih
    exact ⟨connection, stream, sent, draining.aside apart⟩
  | settle _ settles ih =>
    obtain ⟨connection, stream, sent, draining⟩ := ih
    obtain ⟨next, final, more, draining⟩ := draining.settle tracked heard older settles
    exact ⟨next, final, sent ++ more, draining⟩

/-- As long as a response is in flight it can be settled: at the latest its deadline comes. -/
theorem Draining.exists_settling {before : List DiscoveryResponse}
    (draining : start.Draining name before changed later count connection stream sent)
    (settling : start.Settling name later count) {flight : InFlight}
    (busy : stream.session.inFlight = some flight) :
    ∃ more, start.Settling name (later ++ more) (count + 1) := by
  -- The clock is set to the deadline of the response, and then the deadline comes.
  let patience := (start.turns later).ackTimeout
  let time : Duration := ⟨flight.sentAt.nanoseconds + patience.nanoseconds⟩
  refine ⟨[.elapsed time, .overdue name], ?_⟩
  rw [List.append_cons]
  have aside : (Event.elapsed time).name? ≠ some name := by simp [Event.name?]
  refine (settling.aside aside).settle (.deadline (draining.aside aside).found draining.serving ?_)
  -- So much time has passed since the response was sent.
  rw [turns_concat, isOverdue, Session.deadline, busy]
  simp [Plane.turn, time, patience]

/-- What a draining stream has sent and has in flight tells how many settlements came. -/
theorem Draining.count_le {before : List DiscoveryResponse}
    (draining : start.Draining name before changed later count connection stream sent) :
    count ≤ changed.session.pending.length + changed.session.inFlight.toList.length ∧
      (count < changed.session.pending.length + changed.session.inFlight.toList.length →
        stream.session.inFlight.isSome = true) ∧
      (count = changed.session.pending.length + changed.session.inFlight.toList.length →
        stream.session.inFlight = none ∧ stream.session.pending = []) := by
  -- What was sent and what waits make up what was due, and each settlement let one more be sent.
  have settled := draining.settled
  have queue := congrArg List.length draining.drains.queue
  rw [List.length_append, List.length_map] at queue
  -- Something is in flight just as long as a settlement is still to come.
  cases busy : stream.session.inFlight with
  | some flight =>
    rw [busy, Option.toList_some, List.length_singleton] at settled
    exact ⟨by omega, fun _ => rfl, fun same => by omega⟩
  | none =>
    -- With nothing in flight a stream waits only if nothing is queued.
    have done : stream.session.pending = [] := by
      rcases draining.waits with flies | quiet
      · rw [busy] at flies
        cases flies
      · exact List.filter_eq_nil_iff.mpr fun kind _ => by simp [quiet kind]
    rw [busy, Option.toList_none, List.length_nil] at settled
    rw [done, List.length_nil] at queue
    exact ⟨by omega, fun less => by omega, fun _ => ⟨rfl, done⟩⟩

/-- A stream that has news is changed by them when it wakes up, and sends what is due. -/
theorem get?_showNews (delivers : plane.Delivers name connection stream)
    (found : plane.connections.get? name = some connection)
    (serving : connection.phase = .serving stream) (heard : connection.isHeard = true)
    (news : (plane.cache.current stream.current.label).version ≠ stream.current.version) :
    (plane.turn (.woken name)).connections.get? name = some (plane.sentOn connection
      (stream.receive (.snapshot (plane.cache.current stream.current.label)))) := by
  -- The stream watches its label from the version that it holds, so another version is news.
  have hasNews : plane.cache.hasNews ⟨stream.current.label, stream.current.version⟩ = true := by
    simpa [Cache.hasNews] using news
  simp only [Plane.turn, showNews, found, delivers.watching, serving, hasNews, if_true]
  exact get?_serve_of_isHeard heard

/-- When a stream is changed by a new version, after any turns, the kinds that are due are the
subscribed ones that were last sent at another version, and those that a subscription or other names
had queued; they are at most four, and each of them is due once. If from then on nothing happens to
the stream but answers to the response in flight, with the names on record, and deadlines that are
over, then it sends the kinds that are due in the order of their ranks, each once and from the new
snapshot. As many settlements as there are kinds due, and one more if a response was in flight,
leave nothing to send and nothing in flight, with every subscribed kind sent at the new version;
fewer leave a response in flight, which can be settled, and more do not come. A kind whose response
was acknowledged is accepted at the new version. -/
theorem change_drains_once (compileOptions : CompileOptions) (listener : ListenerSettings)
    (maxExtracted : Nat) (ackTimeout : Duration) (nonceOf : Nat → String) (events : List Event)
    {name : String} {old : Connection} {stream : Stream}
    (was : ((idle compileOptions listener maxExtracted ackTimeout nonceOf).turns
      events).connections.get? name = some old)
    (serving : old.phase = .serving stream)
    (news : (((idle compileOptions listener maxExtracted ackTimeout nonceOf).turns
      events).cache.current stream.current.label).version ≠ stream.current.version) :
    let before := (idle compileOptions listener maxExtracted ackTimeout nonceOf).turns events
    let start := before.turn (.woken name)
    let snapshot := before.cache.current stream.current.label
    let changed := stream.receive (.snapshot snapshot)
    let due := changed.session.pending
    let settlements := due.length + changed.session.inFlight.toList.length
    (∀ kind, kind ∈ due ↔ (stream.session.of kind).subscribed = true ∧
      ((stream.session.of kind).lastSent.map Sent.version ≠ some snapshot.version ∨
        (stream.session.of kind).queued = true)) ∧
    (due.Pairwise fun early late => early.rank < late.rank) ∧ due.length ≤ 4 ∧
    ∀ later count, start.Settling name later count →
      ∃ new final sent, (start.turns later).connections.get? name = some new ∧
        new.phase = .serving final ∧ new.responses = old.responses ++ sent ∧
        sent.map DiscoveryResponse.kind ++ final.session.pending = due ∧
        (∀ response ∈ sent, response.version = snapshot.version ∧
          response.resources = Wire.encode response.kind
            (stream.session.of response.kind).names.items snapshot.resources) ∧
        (∀ response ∈ sent, During name later (start.Acknowledges name response) →
          (final.session.of response.kind).accepted = some snapshot.version) ∧
        count ≤ settlements ∧
        (count < settlements → final.session.inFlight.isSome = true ∧
          ∃ more, start.Settling name (later ++ more) (count + 1)) ∧
        (count = settlements → final.session.inFlight = none ∧ final.session.pending = [] ∧
          sent.map DiscoveryResponse.kind = due ∧
          ∀ kind, (final.session.of kind).subscribed = true →
            (final.session.of kind).lastSent.map Sent.version = some snapshot.version) := by
  intro before start snapshot changed due settlements
  -- The plane begins with nothing, so all invariants hold of it after the turns.
  have fresh : (idle compileOptions listener maxExtracted ackTimeout nonceOf).Fresh := ⟨rfl, rfl⟩
  have delivers := (fresh.orderly_turns events name old was).2 stream serving
  have tracked : before.Tracked := Tracked.turns (fun _ _ _ found => by cases found) events
  have heard : before.Heard := Heard.turns (fun _ _ _ found => by cases found) events
  refine ⟨fun kind => (tracked name old stream was serving).mem_pending_onSnapshot,
    changed.session.pending_ascending, changed.session.length_pending_le,
    fun later count settling => ?_⟩
  -- What was sent before the change was not sent at the new version.
  have older : ∀ response ∈ old.responses, response.version ≠ changed.current.version := by
    intro response member same
    obtain ⟨label, traces⟩ := exists_traces fresh events was
    have bound := (traces.explains stream serving).steady.bounded response member
    exact news (Nat.le_antisymm (same ▸ bound) delivers.knew.version_le)
  obtain ⟨new, final, sent, draining⟩ := settling.exists_draining (tracked.turn _) (heard.turn _)
    older ⟨_, _, _, draining_start
      (get?_showNews delivers was serving (heard name old stream was serving) news)⟩
  obtain ⟨bound, waiting, drained⟩ := draining.count_le
  refine ⟨new, final, sent, draining.found, draining.serving, draining.responses,
    draining.drains.queue, fun response member => ?_, draining.accepted, bound,
    fun less => ⟨waiting less, ?_⟩, fun same => ?_⟩
  · -- A new version leaves the names on record.
    obtain ⟨version, resources⟩ := draining.drains.built response member
    refine ⟨version, resources.trans ?_⟩
    have names : (changed.session.of response.kind).names =
        (stream.session.of response.kind).names := by
      show ((stream.session.onSnapshot snapshot.version).of response.kind).names = _
      rw [Session.of_onSnapshot]
      split <;> rfl
    rw [names]
    rfl
  · -- With a response in flight there is always one more settlement to come.
    obtain ⟨flight, busy⟩ := Option.isSome_iff_exists.mp (waiting less)
    exact draining.exists_settling settling busy
  · -- With nothing in flight and nothing queued, every kind that is subscribed has been sent.
    obtain ⟨free, done⟩ := drained same
    obtain ⟨whole, reached⟩ := draining.drains.drained done
    exact ⟨free, done, whole, reached⟩

/-- The response in flight on a connection, and the names on record of its kind. -/
def flying? (connection : Connection) : Option (InFlight × OrderedSet String) :=
  match connection.phase with
  | .serving stream =>
    stream.session.inFlight.map fun flight => (flight, (stream.session.of flight.kind).names)
  | _ => none

/-- An answer to the response in flight that repeats the names on record settles it. -/
theorem settles_of_flying? {flight : InFlight} {names : OrderedSet String}
    {request : DiscoveryRequest}
    (flies : (plane.connections.get? name).bind flying? = some (flight, names))
    (answer : flight.AnsweredBy request) (same : OrderedSet.ofList request.names = names) :
    plane.Settles name (.request name request) := by
  -- The connection is being served, and its session has the response in flight.
  obtain ⟨connection, found, flies⟩ := Option.bind_eq_some_iff.mp flies
  unfold flying? at flies
  split at flies
  · rename_i stream serving
    obtain ⟨other, busy, both⟩ := Option.map_eq_some_iff.mp flies
    cases both
    exact .answer found serving (.answer busy answer same)
  · cases flies

/-- A subscriber asks for clusters and then for endpoints, and a new version is published before it
answers. -/
def unanswered : List Event :=
  [.opened "edge", .request "edge" ⟨ResourceKind.cluster.typeUrl, "", [], none, none⟩,
    .request "edge" ⟨ResourceKind.endpoint.typeUrl, "", [], none, none⟩, .published .default {}]

/-- The first response is given up, the endpoints are rejected, and the clusters are accepted. -/
def mixedAnswers : List Event :=
  [.elapsed (.ofSeconds 30), .overdue "edge",
    .request "edge" ⟨ResourceKind.endpoint.typeUrl, "n2", [], some "bad", none⟩,
    .request "edge" ⟨ResourceKind.cluster.typeUrl, "n3", [], none, none⟩]

/-- After these three settlements the endpoints and then the clusters were sent at the new version,
which is accepted for the clusters. -/
theorem change_drains_once_mixedAnswers :
    let before := (idle {} ⟨"default", "0.0.0.0", 9090, none⟩ 0 (.ofSeconds 30) countedNonce).turns
      unanswered
    let start := before.turn (.woken "edge")
    start.Settling "edge" mixedAnswers 3 ∧
    ∃ new final, (start.turns mixedAnswers).connections.get? "edge" = some new ∧
      new.phase = .serving final ∧
      new.responses = [⟨.cluster, 0, "n1", []⟩, ⟨.endpoint, 1, "n2", []⟩, ⟨.cluster, 1, "n3", []⟩] ∧
      final.session.inFlight = none ∧ final.session.pending = [] ∧
      (final.session.of .cluster).accepted = some 1 := by
  intro before start
  -- The stream before the change is written out, so that what it was can be checked by computing.
  let stream : Stream :=
    { session :=
        { label := .default
          kinds := ((PerKind.always {}).set .cluster
            { subscribed := true, lastSent := some ⟨0, "n1"⟩ }).set .endpoint
            { subscribed := true, queued := true }
          inFlight := some ⟨.cluster, "n1", ⟨0⟩⟩ }
      current := ⟨.default, 0, {}⟩ }
  have was : before.connections.get? "edge" =
      some { phase := .serving stream, responses := [⟨.cluster, 0, "n1", []⟩] } := by rfl
  -- Each settlement is of the response that is in flight then.
  have waited : start.Settling "edge" [.elapsed (.ofSeconds 30)] 0 :=
    Settling.nil.aside (by simp [Event.name?])
  have expired : start.Settling "edge" (mixedAnswers.take 2) 1 :=
    waited.settle (.deadline rfl rfl (by decide +kernel))
  have rejected : start.Settling "edge" (mixedAnswers.take 3) 2 :=
    expired.settle (settles_of_flying?
      (by decide +kernel : _ = some (⟨.endpoint, "n2", .ofSeconds 30⟩, .empty))
      ⟨by decide +kernel, rfl, by decide +kernel⟩ rfl)
  have settling : start.Settling "edge" mixedAnswers 3 :=
    rejected.settle (settles_of_flying?
      (by decide +kernel : _ = some (⟨.cluster, "n3", .ofSeconds 30⟩, .empty))
      ⟨by decide +kernel, rfl, by decide +kernel⟩ rfl)
  obtain ⟨_, _, _, drains⟩ := change_drains_once {} ⟨"default", "0.0.0.0", 9090, none⟩ 0
    (.ofSeconds 30) countedNonce unanswered was rfl (by decide +kernel)
  obtain ⟨new, final, sent, found, serving, responses, _, _, accepted, _, _, drained⟩ :=
    drains mixedAnswers 3 settling
  obtain ⟨free, done, _, _⟩ := drained (by decide +kernel)
  -- What was sent is computed, and the last response was there when its nonce came back.
  let clusters : DiscoveryResponse := ⟨.cluster, 1, "n3", []⟩
  have sentThen : ((start.turns (mixedAnswers.take 3)).connections.get? "edge").map
      Connection.responses =
        some [⟨.cluster, 0, "n1", []⟩, ⟨.endpoint, 1, "n2", []⟩, clusters] := by decide +kernel
  have sentLast : ((start.turns mixedAnswers).connections.get? "edge").map
      Connection.responses =
        some [⟨.cluster, 0, "n1", []⟩, ⟨.endpoint, 1, "n2", []⟩, clusters] := by decide +kernel
  rw [found, Option.map_some, Option.some.injEq] at sentLast
  have added : sent = [⟨.endpoint, 1, "n2", []⟩, clusters] :=
    (List.cons.inj (responses.symm.trans sentLast)).2
  obtain ⟨middle, foundThen, sentThen⟩ := Option.map_eq_some_iff.mp sentThen
  refine ⟨settling, new, final, found, serving, sentLast, free, done, ?_⟩
  exact accepted clusters (by simp [added]) ⟨mixedAnswers.take 3, _, [], rfl, List.not_mem_nil, _,
    middle, rfl, foundThen, by simp [sentThen], by decide +kernel, rfl, rfl⟩

end ControlPlane.Plane
