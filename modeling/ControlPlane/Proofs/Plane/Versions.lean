import ControlPlane.Proofs.Discovery.Versions
import ControlPlane.Proofs.Plane.Delivery
import ControlPlane.Proofs.Plane.History

/-! Where the versions on a stream come from: each response shows what was published to the label at
its version, and each accepted version was sent and acknowledged. Neither ever goes back. -/

namespace ControlPlane

namespace Wire

/-- The resources of a kind, each with its name. -/
def named (kind : ResourceKind) (set : ResourceSet) : List (String × List UInt8) :=
  match kind with
  | .listener => set.listeners.map fun l => (l.name, (listener l).encode)
  | .route => set.routeTables.map fun t => (t.name, (routeTable t).encode)
  | .cluster => set.clusters.map fun c => (c.name, (cluster c).encode)
  | .endpoint => set.assignments.map fun a => (a.cluster, (assignment a).encode)

/-- A subscriber gets all listeners and clusters, and of the other kinds those with a name that it
asks for, or all if it asks for none. -/
theorem encode_eq (kind : ResourceKind) (names : List String) (set : ResourceSet) :
    encode kind names set = ((named kind set).filter fun resource =>
      kind = .listener ∨ kind = .cluster ∨ names = [] ∨ resource.1 ∈ names).map Prod.snd := by
  -- What is wanted is told by the kind and the name alone.
  have asked : ∀ name, wanted kind names name =
      decide (kind = .listener ∨ kind = .cluster ∨ names = [] ∨ name ∈ names) := by
    intro name
    rw [Bool.eq_iff_iff]
    cases kind <;> simp [wanted, ResourceKind.isWildcard]
  unfold encode messages named
  cases kind <;> simp [asked, List.filter_map, Function.comp_def]

end Wire

/-- Whether a connection goes on with a stream: the stream has ended, or it has grown. -/
def Connection.Continues (connection : Connection) (stream : Stream) : Prop :=
  connection.phase = .ended ∨ ∃ after, connection.phase = .serving after ∧ stream.Grows after

namespace Plane

variable {start plane : Plane} {events : List Event} {event : Event} {name : String}
  {label : Label}

/-- Whether nothing was published yet, and nobody has connected. -/
structure Fresh (start : Plane) : Prop where
  cache : start.cache = .empty
  connections : start.connections = .empty

/-- Where nobody has connected every turn leaves the streams in order. -/
theorem Fresh.orderly_turns (fresh : start.Fresh) (events : List Event) :
    (start.turns events).Orderly := by
  -- Nobody is connected at first, which is in order, and every turn keeps it so.
  refine Orderly.turns (fun name connection found => ?_) events
  rw [fresh.connections] at found
  cases found

/-- Whether something happened in one of the turns, after which no stream began under a name. -/
def During (name : String) (events : List Event) (happened : List Event → Event → Prop) : Prop :=
  ∃ earlier event later, events = earlier ++ event :: later ∧ .opened name ∉ later ∧
    happened earlier event

/-- What happens in the last turn has happened. -/
theorem During.last {happened : List Event → Event → Prop} (now : happened events event) :
    During name (events ++ [event]) happened :=
  ⟨events, event, [], rfl, List.not_mem_nil, now⟩

/-- What has happened stays so until another stream begins. -/
theorem During.concat {happened : List Event → Event → Prop}
    (before : During name events happened) (stays : event ≠ .opened name) :
    During name (events ++ [event]) happened := by
  obtain ⟨earlier, turn, later, rfl, quiet, happened⟩ := before
  exact ⟨earlier, turn, later ++ [event], by simp, opened_notMem_concat.mpr ⟨quiet, stays⟩,
    happened⟩

/-- What has happened in turns and one more happened before, or in the last one. -/
theorem During.of_concat {happened : List Event → Event → Prop}
    (before : During name (events ++ [event]) happened) :
    During name events happened ∨ happened events event := by
  obtain ⟨earlier, turn, later, same, quiet, happened⟩ := before
  -- Either it was the last turn in which it happened, or that turn came later.
  rcases List.eq_nil_or_concat' later with rfl | ⟨rest, last, rfl⟩
  · obtain ⟨rfl, only⟩ := List.append_inj' same rfl
    cases only
    exact Or.inr happened
  · -- The last turn came after it, so it was among those before.
    rw [← List.cons_append, ← List.append_assoc] at same
    obtain ⟨rfl, _⟩ := List.append_inj' same rfl
    exact Or.inl ⟨earlier, turn, rest, rfl, (opened_notMem_concat.mp quiet).1, happened⟩

/-- What implies something else has happened together with it. -/
theorem During.imp {happened other : List Event → Event → Prop}
    (before : During name events happened)
    (implies : ∀ earlier event, happened earlier event → other earlier event) :
    During name events other := by
  obtain ⟨earlier, event, later, same, quiet, happened⟩ := before
  exact ⟨earlier, event, later, same, quiet, implies earlier event happened⟩

/-- The resources that a label has at a version in turns: none at first, and then those of each
publication. -/
def edition (start : Plane) (events : List Event) (label : Label) (version : Nat) :
    Option ResourceSet :=
  (ResourceSet.empty :: Cache.publications label (start.history events))[version]?

/-- What was published at a version stays so. -/
theorem edition_concat {version : Nat} {set : ResourceSet}
    (published : start.edition events label version = some set) (event : Event) :
    start.edition (events ++ [event]) label version = some set := by
  -- What was published before comes in front of what the last turn publishes.
  unfold edition at published ⊢
  rw [history_concat, Cache.publications, List.filterMap_append, ← List.cons_append]
  exact List.getElem?_append_left (List.getElem?_eq_some_iff.mp published).1 ▸ published

/-- The current snapshot of a label has the resources that were published at its version. -/
theorem edition_current (fresh : start.Fresh) (events : List Event) (label : Label) :
    start.edition events label ((start.turns events).cache.current label).version =
      some ((start.turns events).cache.current label).resources := by
  -- The version counts the publications, and the resources are those of the last one.
  have recorded := (Cache.recorded_run (start.history events)).current label
  have last : (ResourceSet.empty :: Cache.publications label (start.history events)).getLast? =
      some (Cache.newest label (start.history events)).resources := List.getLast?_cons
  rw [cache_turns, fresh.cache, recorded, edition, ← last, List.getLast?_eq_getElem?]
  rfl

/-- Whether a turn sends a response after others on the stream of a name, which has a label: it
shows what was published to the label at its version, for the names of its kind on record. -/
def Issues (start : Plane) (name : String) (label : Label) (sent : List DiscoveryResponse)
    (response : DiscoveryResponse) (earlier : List Event) (event : Event) : Prop :=
  ∃ old new stream set, (start.turns earlier).connections.get? name = some old ∧
    ((start.turns earlier).turn event).connections.get? name = some new ∧
    old.responses = sent ∧ new.responses = sent ++ [response] ∧
    new.phase = .serving stream ∧ stream.session.label = label ∧
    start.edition earlier label response.version = some set ∧
    response.resources =
      Wire.encode response.kind (stream.session.of response.kind).names.items set

/-- Whether each response on the stream of a name was sent in one of the turns, after those before
it. -/
def Issued (start : Plane) (events : List Event) (name : String) (label : Label)
    (responses : List DiscoveryResponse) : Prop :=
  ∀ sent response, sent ++ [response] <+: responses →
    During name events (start.Issues name label sent response)

/-- Where nothing was sent each response was. -/
theorem issued_nil : start.Issued events name label [] :=
  fun _ _ inside => absurd (List.prefix_nil.mp inside) (by simp)

/-- What was sent stays so until another stream begins. -/
theorem Issued.concat {responses : List DiscoveryResponse}
    (issued : start.Issued events name label responses) (stays : event ≠ .opened name) :
    start.Issued (events ++ [event]) name label responses :=
  fun sent response inside => (issued sent response inside).concat stays

/-- One more response is sent after those before it. -/
theorem Issued.append {responses : List DiscoveryResponse} {response : DiscoveryResponse}
    (issued : start.Issued events name label responses)
    (last : During name events (start.Issues name label responses response)) :
    start.Issued events name label (responses ++ [response]) := by
  -- The response is the new one, or one of those that were sent before.
  intro sent other inside
  rcases List.prefix_concat_iff.mp inside with whole | before
  · obtain ⟨rfl, only⟩ := List.append_inj' whole rfl
    cases only
    exact last
  · exact issued sent other before

/-- Whether a turn is a request under a name that echoes a response sent before and does not reject
it. -/
def Acknowledges (start : Plane) (name : String) (response : DiscoveryResponse)
    (earlier : List Event) (event : Event) : Prop :=
  ∃ request old, event = .request name request ∧
    (start.turns earlier).connections.get? name = some old ∧ response ∈ old.responses ∧
    ResourceKind.ofTypeUrl? request.typeUrl = some response.kind ∧
    request.nonce = response.nonce ∧ request.rejection = none

/-- Whether turns explain what a stream of a label holds after them: it holds what was published to
the label, its versions are in order, and what it accepted was acknowledged. -/
structure Explains (start : Plane) (events : List Event) (name : String) (label : Label)
    (responses : List DiscoveryResponse) (stream : Stream) : Prop where
  session : stream.session.label = label
  current : stream.current.label = label
  held : start.edition events label stream.current.version = some stream.current.resources
  steady : stream.Steady responses
  accepted : ∀ kind version, (stream.session.of kind).accepted = some version →
    ∃ response ∈ responses, response.kind = kind ∧ response.version = version ∧
      During name events (start.Acknowledges name response)

/-- Whether turns explain a connection to a label: all that was sent on it, and the stream that it
has after them. -/
structure Traces (start : Plane) (events : List Event) (name : String) (label : Label)
    (connection : Connection) : Prop where
  issued : start.Issued events name label connection.responses
  ordered : connection.responses.Pairwise fun early late => early.version ≤ late.version
  explains : ∀ stream, connection.phase = .serving stream →
    start.Explains events name label connection.responses stream

/-- What explains a stream goes on to do so as long as nothing happens to the stream. -/
theorem Explains.concat {responses : List DiscoveryResponse} {stream : Stream}
    (explains : start.Explains events name label responses stream) (stays : event ≠ .opened name) :
    start.Explains (events ++ [event]) name label responses stream where
  session := explains.session
  current := explains.current
  held := edition_concat explains.held event
  steady := explains.steady
  accepted kind version accepted := by
    -- The acknowledgement lies further back by one turn.
    obtain ⟨response, member, same, counted, before⟩ := explains.accepted kind version accepted
    exact ⟨response, member, same, counted, before.concat stays⟩

/-- What explains a connection goes on to do so as long as nothing happens to it. -/
theorem Traces.concat {connection : Connection}
    (traces : start.Traces events name label connection) (stays : event ≠ .opened name) :
    start.Traces (events ++ [event]) name label connection where
  issued := traces.issued.concat stays
  ordered := traces.ordered
  explains stream serving := (traces.explains stream serving).concat stays

/-- A stream on which nothing was asked for is explained by the snapshot that its label has. -/
theorem explains_new (fresh : start.Fresh) (events : List Event) (name : String)
    (label : Label) :
    start.Explains events name label []
      ⟨.new label, (start.turns events).cache.current label⟩ where
  session := rfl
  current := Cache.label_current ..
  held := edition_current fresh events label
  steady := by
    have steady := Stream.steady_new ((start.turns events).cache.current label)
    rwa [Cache.label_current] at steady
  accepted kind version accepted := by simp at accepted

/-- How a stream comes to what it is given in a turn: it was there before, or it is a new one, and
it takes an event into account. -/
structure Receives (plane : Plane) (name : String) (connection : Connection) (event : Event)
    (before : Stream) (told : StreamEvent) (stream : Stream) : Prop where
  stays : event ≠ .opened name
  origin : connection.phase = .serving before ∨
    connection.phase = .waiting ∧ ∃ label, before = ⟨.new label, plane.cache.current label⟩
  received : stream = before.receive told
  request : ∀ request, told = .request request → event = .request name request
  accounted : before.Accounted connection.responses
  newer : before.current.version ≤ stream.current.version
  current : stream.current = before.current ∨
    stream.current = plane.cache.current before.current.label

/-- What a stream is given in an orderly state is one event. -/
theorem Given.exists_receives {connection : Connection} {stream : Stream}
    {watcher : Option Watcher} (given : plane.Given name connection event stream watcher)
    (orderly : plane.Orderly) (found : plane.connections.get? name = some connection) :
    ∃ before told, plane.Receives name connection event before told stream := by
  obtain ⟨fresh, delivers⟩ := orderly name connection found
  -- Each event has its own way to the stream, and each is seen as something that the stream
  -- receives.
  cases given with
  | @opened request waiting =>
    -- The first request comes to a stream on which nothing was asked for.
    let label := Node.labelOf request.node
    have labelled : (plane.cache.current label).label = label := Cache.label_current ..
    refine ⟨⟨.new label, plane.cache.current label⟩, .request request, by simp,
      Or.inr ⟨waiting, label, rfl⟩, ?_, fun _ same => ?_, ?_, Nat.le_refl _, Or.inl rfl⟩
    · rw [Stream.opened_eq_receive, labelled]
    · cases same; rfl
    · have accounted := Stream.accounted_new (plane.cache.current label)
      rwa [labelled, ← fresh waiting] at accounted
  -- A stream that goes on was accounted for before the turn.
  | @requested request before serving =>
    obtain ⟨accounted, _, _, _⟩ := delivers before serving
    exact ⟨before, .request request, by simp, Or.inl serving, rfl, fun _ same => by cases same; rfl,
      accounted, Nat.le_refl _, Or.inl rfl⟩
  | @overdue before serving _ =>
    obtain ⟨accounted, _, _, _⟩ := delivers before serving
    exact ⟨before, .deadline, by simp, Or.inl serving, rfl, fun _ same => by (cases same),
      accounted, Nat.le_refl _, Or.inl rfl⟩
  | @woken before watcher serving watching news =>
    -- The snapshot that is shown is that of the label, and not older than the one held.
    obtain ⟨accounted, _, knew, watched⟩ := delivers before serving
    cases watching.symm.trans watched
    exact ⟨before, .snapshot (plane.cache.current before.current.label), by simp, Or.inl serving,
      rfl, fun _ same => by (cases same), accounted, knew.version_le, Or.inr rfl⟩

/-- A stream grows by what it is given. -/
theorem Receives.grows {connection : Connection} {before stream : Stream} {told : StreamEvent}
    (receives : plane.Receives name connection event before told stream)
    (steady : before.Steady connection.responses) :
    stream.Steady connection.responses ∧ before.Grows stream := by
  obtain ⟨_, _, rfl, _, accounted, newer, _⟩ := receives
  exact steady.receive accounted newer

/-- What a stream is given is what was published to its label. -/
theorem Receives.held (fresh : start.Fresh) {connection : Connection}
    {before stream : Stream} {told : StreamEvent}
    (receives : (start.turns events).Receives name connection event before told stream)
    (explains : start.Explains events name label connection.responses before) :
    stream.current.label = label ∧
      start.edition events label stream.current.version = some stream.current.resources := by
  -- It is what the stream held before, or what its label has now.
  rcases receives.current with same | same
  · rw [same]
    exact ⟨explains.current, explains.held⟩
  · rw [same, explains.current]
    exact ⟨Cache.label_current .., edition_current fresh events label⟩

/-- What explains a stream also explains it after what it is given in the next turn. -/
theorem Receives.explains (fresh : start.Fresh) {connection : Connection}
    {before stream : Stream} {told : StreamEvent}
    (receives : (start.turns events).Receives name connection event before told stream)
    (found : (start.turns events).connections.get? name = some connection)
    (explains : start.Explains events name label connection.responses before) :
    start.Explains (events ++ [event]) name label connection.responses stream := by
  have steady := (receives.grows explains.steady).1
  obtain ⟨current, held⟩ := receives.held fresh explains
  obtain ⟨stays, _, rfl, request, accounted, _, _⟩ := receives
  refine ⟨(before.label_receive told).trans explains.session, current, edition_concat held event,
    steady, fun kind version accepted => ?_⟩
  rcases before.accepted_receive told kind with
    same | ⟨asked, other, asks, answer, plain, acknowledged⟩
  · -- The request does not change what is accepted, which was explained before.
    exact (explains.concat stays).accepted kind version (same.symm.trans accepted)
  · -- The request of this turn echoes the last response of the kind.
    obtain ⟨last, latest, counted, nonce⟩ := accounted.latest_of_answers answer
    obtain ⟨member, same⟩ := DiscoveryResponse.of_latest latest
    cases acknowledged.symm.trans accepted
    exact ⟨last, member, same, counted, .last ⟨asked, connection, request asked asks, found,
      member, same ▸ answer.named, nonce.symm, plain⟩⟩

/-- What a stream sends in a turn is what it holds, for the names that are on record. -/
theorem Explains.issues {connection : Connection} {stream next : Stream}
    {response : DiscoveryResponse}
    (explains : start.Explains (events ++ [event]) name label connection.responses stream)
    (held : start.edition events label stream.current.version = some stream.current.resources)
    (was : (start.turns events).connections.get? name = some connection)
    (found : ((start.turns events).turn event).connections.get? name =
      some ((start.turns events).sentOn connection stream))
    (sends : stream.push ((start.turns events).nonceOf connection.responses.length)
      (start.turns events).now = (next, some response)) :
    start.Issues name label connection.responses response events event := by
  obtain ⟨version, resources⟩ := Stream.built_of_push sends
  -- Sending changes neither the label of the stream nor the snapshot that it holds.
  have labelled : next.session.label = stream.session.label := by
    rw [← stream.label_push, sends]
  have current : next.current = stream.current := by rw [← stream.current_push, sends]
  rw [current] at version resources
  exact ⟨connection, _, next, stream.current.resources, was, found, rfl, by simp [sentOn, sends],
    by simp [sentOn, sends], labelled.trans explains.session, version ▸ held, resources⟩

/-- What explains a stream explains it after it has sent what is due. -/
theorem Explains.push {responses : List DiscoveryResponse} {stream : Stream}
    (explains : start.Explains events name label responses stream) (nonce : String)
    (now : Duration) :
    start.Explains events name label (responses ++ (stream.push nonce now).2.toList)
      (stream.push nonce now).1 where
  session := (stream.label_push nonce now).trans explains.session
  current := by rw [Stream.current_push, explains.current]
  held := by rw [Stream.current_push, explains.held]
  steady := (explains.steady.push nonce now).1
  accepted kind version accepted := by
    -- Sending accepts nothing, so the response is one that was there.
    rw [Stream.accepted_push] at accepted
    obtain ⟨response, member, rest⟩ := explains.accepted kind version accepted
    exact ⟨response, List.mem_append_left _ member, rest⟩

/-- What explains a stream that sends what is due explains the connection that it is sent on. -/
theorem Explains.sentOn {connection : Connection} {stream : Stream}
    (explains : start.Explains (events ++ [event]) name label connection.responses stream)
    (held : start.edition events label stream.current.version = some stream.current.resources)
    (was : (start.turns events).connections.get? name = some connection)
    (found : ((start.turns events).turn event).connections.get? name =
      some ((start.turns events).sentOn connection stream))
    (issued : start.Issued (events ++ [event]) name label connection.responses) :
    start.Traces (events ++ [event]) name label
      ((start.turns events).sentOn connection stream) := by
  -- The stream after the push is explained, so it is left to show that its response was issued.
  have pushed := explains.push ((start.turns events).nonceOf connection.responses.length)
    (start.turns events).now
  refine ⟨?_, pushed.steady.ordered, fun next serving => by (cases serving; exact pushed)⟩
  cases sends : stream.push ((start.turns events).nonceOf connection.responses.length)
      (start.turns events).now with
  | mk next response =>
    have added : ((start.turns events).sentOn connection stream).responses =
        connection.responses ++ response.toList := by simp [Plane.sentOn, sends]
    rw [added]
    -- Either nothing was due, or what was due is one more response.
    cases response with
    | none => simpa using issued
    | some response => exact issued.append (.last (explains.issues held was found sends))

/-- Any turns explain every connection that there is after them. -/
theorem exists_traces (fresh : start.Fresh) (events : List Event) {connection : Connection}
    (found : (start.turns events).connections.get? name = some connection) :
    ∃ label, start.Traces events name label connection := by
  -- The induction is on the last turn, which is a new connection or goes on with one.
  induction events using List.reverseRecOn generalizing connection with
  | nil =>
    -- Without any turn nobody is connected.
    have unconnected : start.connections.get? name = none := by rw [fresh.connections]; rfl
    cases unconnected.symm.trans found
  | append_singleton events event ih =>
    rw [turns_concat] at found
    by_cases opening : event = .opened name
    · subst opening
      have blank : ((start.turns events).turn (.opened name)).connections.get? name = some {} :=
        (get?_put ..).trans (if_pos rfl)
      cases blank.symm.trans found
      exact ⟨.default, issued_nil, .nil, fun _ serving => by (cases serving)⟩
    -- What is not replaced has the past that it had, and what is sent in the turn besides.
    cases (start.turns events).turned event name with
    | untouched same =>
      obtain ⟨label, traces⟩ := ih (same.1.symm.trans found)
      exact ⟨label, traces.concat opening⟩
    | begun opened _ => exact absurd opened opening
    | ended was ends =>
      obtain ⟨label, traces⟩ := ih was
      cases ends.symm.trans found
      exact ⟨label, (traces.concat opening).issued, traces.ordered,
        fun _ serving => by (cases serving)⟩
    | deafened was waiting still =>
      obtain ⟨label, traces⟩ := ih was
      cases still.symm.trans found
      refine ⟨label, (traces.concat opening).issued, traces.ordered, fun _ serving => ?_⟩
      cases waiting.symm.trans serving
    | @served connection stream _ was given sent _ =>
      have between := fresh.orderly_turns events
      obtain ⟨before, told, receives⟩ := given.exists_receives between was
      -- A new stream is explained by the snapshot it opens with, and one that goes on as before.
      have explained : ∃ label, start.Explains events name label connection.responses before ∧
          start.Issued (events ++ [event]) name label connection.responses := by
        rcases receives.origin with serving | ⟨waiting, label, rfl⟩
        · obtain ⟨label, traces⟩ := ih was
          exact ⟨label, traces.explains before serving, (traces.concat opening).issued⟩
        · rw [(between name connection was).1 waiting]
          exact ⟨label, explains_new fresh events name label, issued_nil⟩
      obtain ⟨label, explains, issued⟩ := explained
      cases sent.symm.trans found
      exact ⟨label, (receives.explains fresh was explains).sentOn (receives.held fresh explains).2
        was sent issued⟩

/-- A connection that goes on with a stream does so after a turn, unless it is replaced. -/
theorem continues_turn (orderly : plane.Orderly) {connection : Connection} {stream : Stream}
    (found : plane.connections.get? name = some connection)
    (steady : ∀ after, connection.phase = .serving after → after.Steady connection.responses)
    (continues : connection.Continues stream) (stays : event ≠ .opened name) :
    ∃ after, (plane.turn event).connections.get? name = some after ∧ after.Continues stream := by
  -- What goes on does not wait for its first request.
  have begun : connection.phase ≠ .waiting := by
    rcases continues with ended | ⟨after, serving, _⟩ <;> simp [*]
  cases plane.turned event name with
  | untouched same => exact ⟨connection, same.1.trans found, continues⟩
  | begun opened _ => exact absurd opened stays
  -- A stream that has ended goes on as one that has ended.
  | ended was ends => exact ⟨_, ends, Or.inl rfl⟩
  | deafened was waiting still =>
    cases was.symm.trans found
    exact absurd waiting begun
  | @served _ given _ was isGiven sent _ =>
    cases was.symm.trans found
    obtain ⟨before, told, receives⟩ := isGiven.exists_receives orderly found
    have serving := receives.origin.resolve_right fun ⟨waiting, _⟩ => begun waiting
    -- The stream grows by what it is given, and then by what it sends.
    obtain ⟨now, grows⟩ := receives.grows (steady before serving)
    have pushed := (now.push (plane.nonceOf connection.responses.length) plane.now).2
    -- The connection serves the stream, so it has not ended.
    rcases continues with ended | ⟨after, serves, grown⟩
    · cases ended.symm.trans serving
    · cases serves.symm.trans serving
      exact ⟨_, sent, Or.inr ⟨_, rfl, (grown.trans grows).trans pushed⟩⟩

/-- A connection that goes on with a stream does so after any turns, unless it is replaced. -/
theorem continues_turns (fresh : start.Fresh) {connection : Connection} {stream : Stream}
    (found : (start.turns events).connections.get? name = some connection)
    (serving : connection.phase = .serving stream) (later : List Event)
    (stays : .opened name ∉ later) :
    ∃ after, (start.turns (events ++ later)).connections.get? name = some after ∧
      after.Continues stream := by
  -- The induction is on the last turn, before which the stream is explained by the others.
  induction later using List.reverseRecOn with
  | nil =>
    rw [List.append_nil]
    exact ⟨connection, found, Or.inr ⟨stream, serving, .refl stream⟩⟩
  | append_singleton later event ih =>
    obtain ⟨quiet, still⟩ := opened_notMem_concat.mp stays
    obtain ⟨before, was, continues⟩ := ih quiet
    obtain ⟨label, traces⟩ := exists_traces fresh (events ++ later) was
    rw [← List.append_assoc, turns_concat]
    exact continues_turn (fresh.orderly_turns _) was
      (fun after serving => (traces.explains after serving).steady) continues still

/-- After any turns, every response on a stream shows the resources that were published to the label
of the stream at the version of the response, for the names that were on record when it was sent,
and the versions never go back. Each version that the stream has accepted of a kind is that of a
response of the kind whose nonce came back without a rejection; it is not greater than the version
sent last, and no later turn takes it back. -/
theorem shows_published_in_order (compileOptions : CompileOptions) (listener : ListenerSettings)
    (maxExtracted : Nat) (ackTimeout : Duration) (nonceOf : Nat → String) (events : List Event)
    {name : String} {connection : Connection}
    (found : ((idle compileOptions listener maxExtracted ackTimeout nonceOf).turns
      events).connections.get? name = some connection) :
    let start := idle compileOptions listener maxExtracted ackTimeout nonceOf
    (∀ kind names set, Wire.encode kind names set = ((Wire.named kind set).filter fun resource =>
      kind = .listener ∨ kind = .cluster ∨ names = [] ∨ resource.1 ∈ names).map Prod.snd) ∧
    (∀ turns, (start.turns turns).cache = Cache.empty.run (start.history turns)) ∧
    (∃ label, (∀ stream, connection.phase = .serving stream → stream.session.label = label) ∧
      start.Issued events name label connection.responses) ∧
    (connection.responses.Pairwise fun early late => early.version ≤ late.version) ∧
    ∀ stream, connection.phase = .serving stream → ∀ kind version,
      (stream.session.of kind).accepted = some version →
      (∃ response ∈ connection.responses, response.kind = kind ∧ response.version = version ∧
        During name events (start.Acknowledges name response)) ∧
      (∃ sent, (stream.session.of kind).lastSent = some sent ∧ version ≤ sent.version) ∧
      ∀ later, .opened name ∉ later → ∀ after grown,
        (start.turns (events ++ later)).connections.get? name = some after →
        after.phase = .serving grown →
        ∃ newer, (grown.session.of kind).accepted = some newer ∧ version ≤ newer := by
  intro start
  have fresh : start.Fresh := ⟨rfl, rfl⟩
  -- All that was sent is traced to the turns, and so is what was accepted.
  obtain ⟨label, traces⟩ := exists_traces fresh events found
  have labelled : ∀ stream, connection.phase = .serving stream → stream.session.label = label :=
    fun stream serving => (traces.explains stream serving).session
  refine ⟨Wire.encode_eq, start.cache_turns, ⟨label, labelled, traces.issued⟩, traces.ordered,
    fun stream serving kind version accepted => ?_⟩
  have explains := traces.explains stream serving
  refine ⟨explains.accepted kind version accepted, ?_, fun later stays after grown has serves => ?_⟩
  · -- The version sent last is that of the last response.
    obtain ⟨last, latest, less⟩ := explains.steady.accepted kind version accepted
    have delivers := (fresh.orderly_turns events name connection found).2 stream serving
    have logged := delivers.accounted.logged kind
    exact ⟨_, logged.trans (congrArg (Option.map _) latest), less⟩
  · -- The stream after the later turns is the same one, grown.
    obtain ⟨other, goes, continues⟩ :=
      continues_turns fresh found serving later stays
    cases goes.symm.trans has
    rcases continues with ended | ⟨same, serves', grows⟩
    · cases ended.symm.trans serves
    · cases serves'.symm.trans serves
      exact grows.accepted kind version accepted

/-- The versions that were sent on a connection, and the version of clusters accepted on it. -/
def versionsOn (connection : Connection) : List Nat × Option Nat :=
  (connection.responses.map DiscoveryResponse.version, match connection.phase with
    | .serving stream => (stream.session.of .cluster).accepted
    | _ => none)

/-- After a late answer and one in time the version sent last is accepted, for the latter. -/
theorem shows_published_in_order_lateAnswer :
    let start := idle {} ⟨"default", "0.0.0.0", 9090, none⟩ 0 (.ofSeconds 30) countedNonce
    ∃ connection response, (start.turns lateAnswer).connections.get? "edge" = some connection ∧
      versionsOn connection = ([0, 1], some 1) ∧ response ∈ connection.responses ∧
      response.kind = .cluster ∧ response.version = 1 ∧
      During "edge" lateAnswer (start.Acknowledges "edge" response) := by
  intro start
  -- The versions are computed, and the general statement says where the accepted one comes from.
  have computed : ((start.turns lateAnswer).connections.get? "edge").map versionsOn =
      some ([0, 1], some 1) := by decide +kernel
  obtain ⟨connection, found, versions⟩ := Option.map_eq_some_iff.mp computed
  obtain ⟨_, _, _, _, explained⟩ := shows_published_in_order {} ⟨"default", "0.0.0.0", 9090, none⟩ 0
    (.ofSeconds 30) countedNonce lateAnswer found
  -- Only of a stream that is served a version is accepted.
  have accepted := congrArg Prod.snd versions
  simp only [versionsOn] at accepted
  split at accepted
  · rename_i stream serving
    obtain ⟨⟨response, member, same, counted, acknowledged⟩, _⟩ :=
      explained stream serving .cluster 1 accepted
    exact ⟨connection, response, found, versions, member, same, counted, acknowledged⟩
  · cases accepted

end Plane

end ControlPlane
