import ControlPlane.Proofs.Plane.Turns

/-! Whatever happens in whatever order, no stream forgets what it owes to its subscriber. -/

namespace ControlPlane.Plane

/-- What holds of a stream between two turns: it accounts for what it sent and for what is due, it
has a reason to wait, it holds a snapshot that its label has or had, and it watches the label from
that version on. -/
structure Delivers (plane : Plane) (name : String) (connection : Connection) (stream : Stream) :
    Prop where
  accounted : stream.Accounted connection.responses
  waits : stream.Waits
  knew : plane.cache.Knew stream.current
  watching : plane.cache.watchers.get? name =
    some ⟨stream.current.label, stream.current.version⟩

/-- Whether all streams deliver, and nothing was sent on connections without one. -/
def Orderly (plane : Plane) : Prop :=
  ∀ name connection, plane.connections.get? name = some connection →
    (connection.phase = .waiting → connection.responses = []) ∧
      ∀ stream, connection.phase = .serving stream → plane.Delivers name connection stream

/-- Without connections there is nothing to deliver. -/
theorem orderly_idle (compileOptions : CompileOptions) (listener : ListenerSettings)
    (maxExtracted : Nat) (ackTimeout : Duration) (nonceOf : Nat → String) :
    (idle compileOptions listener maxExtracted ackTimeout nonceOf).Orderly := by
  intro name connection found
  cases found

/-- A stream that is given something in an orderly state accounts for it before it sends anything,
and watches its label from the version that it holds. -/
theorem Given.accounted {plane : Plane} {name : String} {connection : Connection} {event : Event}
    {stream : Stream} {watcher : Option Watcher}
    (given : plane.Given name connection event stream watcher) (orderly : plane.Orderly)
    (found : plane.connections.get? name = some connection) :
    stream.Accounted connection.responses ∧ plane.cache.Knew stream.current ∧
      watcher = some ⟨stream.current.label, stream.current.version⟩ := by
  obtain ⟨fresh, delivers⟩ := orderly name connection found
  cases given with
  | @opened request waiting =>
    -- The first request comes to a stream of the label on which nothing was asked for.
    have current := plane.cache.label_current (Node.labelOf request.node)
    refine ⟨?_, plane.cache.knew_current _, ?_⟩
    · rw [fresh waiting, Stream.opened_eq_receive]
      exact (Stream.accounted_new _).receive (by intro _ other; cases other)
    · simp only [Stream.opened, current]
  | @requested request stream serving =>
    -- Requests and deadlines leave the snapshot and the watcher as they are.
    obtain ⟨accounted, _, knew, watching⟩ := delivers stream serving
    exact ⟨accounted.receive (by intro _ other; cases other), knew, watching⟩
  | @overdue stream serving late =>
    obtain ⟨accounted, _, knew, watching⟩ := delivers stream serving
    exact ⟨accounted.receive (by intro _ other; cases other), knew, watching⟩
  | @woken stream watcher serving watching news =>
    obtain ⟨accounted, _, knew, watched⟩ := delivers stream serving
    have same := Option.some.inj (watching.symm.trans watched)
    subst same
    have current := plane.cache.label_current stream.current.label
    refine ⟨accounted.receive fun snapshot shown version => ?_, plane.cache.knew_current _, ?_⟩
    · -- Of the snapshots of a label, only the current one has its version.
      cases shown
      exact knew.eq_current version
    · simp only [Stream.receive, current]

/-- Every turn keeps the control plane orderly. -/
theorem Orderly.turn {plane : Plane} (orderly : plane.Orderly) (event : Event) :
    (plane.turn event).Orderly := by
  intro name connection found
  have advances := plane.advances_turn event
  cases plane.turned event name with
  | untouched same =>
    -- The stream is as it was, and its snapshot is as old as it was, or older.
    obtain ⟨fresh, delivers⟩ := orderly name connection (same.1.symm.trans found)
    refine ⟨fresh, fun stream serving => ?_⟩
    obtain ⟨accounted, waits, knew, watching⟩ := delivers stream serving
    exact ⟨accounted, waits, knew.advance advances, same.2.trans watching⟩
  | begun _ here =>
    -- On a new connection nothing was sent, and no stream is served yet.
    cases here.symm.trans found
    exact ⟨fun _ => rfl, fun stream serving => by cases serving⟩
  | ended _ here =>
    -- An ended connection neither waits for a request nor serves a stream.
    cases here.symm.trans found
    exact ⟨fun waiting => by (cases waiting), fun stream serving => by cases serving⟩
  -- It still waits for its first request, so there is no stream.
  | deafened was waiting here =>
    cases here.symm.trans found
    refine ⟨(orderly name _ was).1, fun stream serving => ?_⟩
    rw [waiting] at serving
    cases serving
  | served was given here watches =>
    -- The stream accounts for what it was given, and then for what it sent.
    cases here.symm.trans found
    refine ⟨fun waiting => by (cases waiting), fun stream serving => ?_⟩
    cases serving
    obtain ⟨accounted, knew, watching⟩ := given.accounted orderly was
    refine ⟨accounted.push _ _, Stream.waits_push .., ?_, ?_⟩
    · rw [Stream.current_push]
      exact knew.advance advances
    · rw [Stream.current_push]
      exact watches.trans watching

/-- Any turns keep the control plane orderly. -/
theorem Orderly.turns {plane : Plane} (orderly : plane.Orderly) (events : List Event) :
    (plane.turns events).Orderly :=
  turns_induction Orderly orderly fun event _ _ before => before.turn event

/-- After any turns the control plane is orderly. -/
theorem orderly_turns (compileOptions : CompileOptions) (listener : ListenerSettings)
    (maxExtracted : Nat) (ackTimeout : Duration) (nonceOf : Nat → String) (events : List Event) :
    ((idle compileOptions listener maxExtracted ackTimeout nonceOf).turns events).Orderly :=
  (orderly_idle compileOptions listener maxExtracted ackTimeout nonceOf).turns events

/-- After any turns the streams are as patient as they were at first. -/
theorem ackTimeout_turns (plane : Plane) (events : List Event) :
    (plane.turns events).ackTimeout = plane.ackTimeout :=
  turns_induction (fun after => after.ackTimeout = plane.ackTimeout) rfl
    fun event _ before same => (before.ackTimeout_turn event).trans same

/-- A stream that delivers holds the current snapshot of its label, or has news to look at. -/
theorem Delivers.current_or_hasNews {plane : Plane} {name : String} {connection : Connection}
    {stream : Stream} (delivers : plane.Delivers name connection stream) :
    plane.cache.current stream.current.label = stream.current ∨
      ∃ watcher, plane.cache.watchers.get? name = some watcher ∧
        watcher.label = stream.current.label ∧ plane.cache.hasNews watcher = true := by
  -- If the version is the one that was seen, so is the snapshot.
  by_cases version : (plane.cache.current stream.current.label).version = stream.current.version
  · exact Or.inl (delivers.knew.eq_current version)
  · exact Or.inr ⟨_, delivers.watching, rfl, by simpa [Cache.hasNews] using version⟩

/-- After any turns, in any order, every stream waits for a reason: a response is in flight, and the
time for its answer is set; or nothing is queued, and the last response of every subscribed kind was
built from the snapshot that the stream holds, for the names on record. That snapshot is the current
one of its label, or the stream has news to look at. -/
theorem waits_with_reason (compileOptions : CompileOptions) (listener : ListenerSettings)
    (maxExtracted : Nat) (ackTimeout : Duration) (nonceOf : Nat → String) (events : List Event)
    {name : String} {connection : Connection} {stream : Stream}
    (found : ((idle compileOptions listener maxExtracted ackTimeout nonceOf).turns
      events).connections.get? name = some connection)
    (serving : connection.phase = .serving stream) :
    let plane := (idle compileOptions listener maxExtracted ackTimeout nonceOf).turns events
    ((∃ sent, stream.session.inFlight = some sent ∧
        stream.session.deadline plane.ackTimeout =
          some ⟨sent.sentAt.nanoseconds + ackTimeout.nanoseconds⟩) ∨
      stream.session.pending = [] ∧
        ∀ kind, (stream.session.of kind).subscribed = true →
          ∃ response, DiscoveryResponse.latest kind connection.responses = some response ∧
            response.version = stream.current.version ∧
            response.resources = Wire.encode kind (stream.session.of kind).names.items
              stream.current.resources) ∧
    (plane.cache.current stream.current.label = stream.current ∨
      ∃ watcher, plane.cache.watchers.get? name = some watcher ∧
        watcher.label = stream.current.label ∧ plane.cache.hasNews watcher = true) := by
  intro plane
  have orderly : plane.Orderly :=
    orderly_turns compileOptions listener maxExtracted ackTimeout nonceOf events
  have delivers := (orderly name connection found).2 stream serving
  refine ⟨?_, delivers.current_or_hasNews⟩
  rcases delivers.waits with busy | settled
  · -- The deadline is counted from when the response was sent.
    obtain ⟨sent, inFlight⟩ := Option.isSome_iff_exists.mp busy
    have patience : plane.ackTimeout = ackTimeout := ackTimeout_turns _ events
    exact Or.inl ⟨sent, inFlight, by rw [Session.deadline, inFlight, patience]; rfl⟩
  · refine Or.inr ⟨List.filter_eq_nil_iff.mpr fun kind _ => by simp [settled kind], ?_⟩
    exact fun kind subscribed => delivers.accounted.owed kind subscribed (settled kind)

/-- A response is overdue when a new version is there already, its answer comes too late, and the
next response is answered in time. -/
def lateAnswer : List Event :=
  [.opened "edge", .request "edge" ⟨ResourceKind.cluster.typeUrl, "", [], none, none⟩,
    .published .default {}, .woken "edge", .elapsed (.ofSeconds 30), .overdue "edge",
    .request "edge" ⟨ResourceKind.cluster.typeUrl, "n1", [], none, none⟩,
    .request "edge" ⟨ResourceKind.cluster.typeUrl, "n2", [], none, none⟩]

/-- After the late answer and the other one, nothing is in flight, and the subscriber was sent what
there is. -/
theorem waits_with_reason_lateAnswer :
    let plane := (idle {} ⟨"default", "0.0.0.0", 9090, none⟩ 0 (.ofSeconds 30) countedNonce).turns
      lateAnswer
    ∃ connection stream, plane.connections.get? "edge" = some connection ∧
      connection.phase = .serving stream ∧ stream.session.inFlight = none ∧
      stream.session.pending = [] ∧
      ∃ response, DiscoveryResponse.latest .cluster connection.responses = some response ∧
        response.version = 1 ∧ plane.cache.current .default = stream.current := by
  intro plane
  let stream : Stream :=
    { session :=
        { label := .default
          kinds := (PerKind.always {}).set .cluster
            { subscribed := true, names := .empty, lastSent := some ⟨1, "n2"⟩, accepted := some 1
              queued := false }
          inFlight := none }
      current := ⟨.default, 1, {}⟩ }
  let connection : Connection :=
    { phase := .serving stream, responses := [⟨.cluster, 0, "n1", []⟩, ⟨.cluster, 1, "n2", []⟩] }
  have found : plane.connections.get? "edge" = some connection := by rfl
  obtain ⟨⟨sent, inFlight, _⟩ | ⟨settled, upToDate⟩, current | ⟨watcher, watching, _, news⟩⟩ :=
    waits_with_reason {} ⟨"default", "0.0.0.0", 9090, none⟩ 0 (.ofSeconds 30) countedNonce
      lateAnswer found rfl
  · -- Nothing is in flight, so the reason is the other one.
    cases inFlight
  · cases inFlight
  · obtain ⟨response, latest, version, _⟩ := upToDate .cluster rfl
    exact ⟨connection, stream, found, rfl, rfl, settled, response, latest, version, current⟩
  · -- The stream has looked at the version that there is.
    have seen : plane.cache.watchers.get? "edge" = some ⟨.default, 1⟩ := by rfl
    cases seen.symm.trans watching
    exact absurd news (by decide +kernel)

end ControlPlane.Plane
