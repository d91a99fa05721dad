import ControlPlane.Proofs.Discovery.Labels
import ControlPlane.Proofs.Plane.History
import ControlPlane.Proofs.Plane.Turns

/-! The labels that the cache knows stay those that are deployed or connected. -/

namespace ControlPlane

/-- The label of the stream of a connection, if the stream has begun and has not ended. -/
def Connection.label? (connection : Connection) : Option Label :=
  match connection.phase with
  | .serving stream => some stream.session.label
  | _ => none

namespace Plane

open Cache (Visits Moves Settled)

/-- The label of the live stream of a name. -/
def served (plane : Plane) (name : String) : Option Label :=
  (plane.connections.get? name).bind Connection.label?

/-- A name has the label of the connection that was put under it, and every other keeps its own. -/
theorem served_put (plane : Plane) (name other : String) (connection : Connection) :
    (plane.put name connection).served other =
      if name = other then connection.label? else plane.served other := by
  -- The name is looked up after something was put under it, or under another name.
  unfold served
  rw [get?_put]
  split <;> rfl

/-- Whether turns about one name let it visit the cache, and move no other. -/
structure VisitOf (name : String) (before : Plane) (operations : List Cache.Operation)
    (after : Plane) : Prop where
  visits : Visits name (before.served name) operations (after.served name)
  others : ∀ other, name ≠ other → after.served other = before.served other

/-- What concerns one name moves no other. -/
theorem Concerns.served {name : String} {before after : Plane}
    (concerns : Concerns name before after) (other : String) (apart : name ≠ other) :
    after.served other = before.served other := by
  unfold Plane.served
  rw [(concerns.others other apart).1]

/-- The end of a connection is the departure of its stream, if it has one. -/
theorem visits_leaving (name : String) (connection : Connection) :
    Visits name connection.label? (leaving name connection) none := by
  -- There is a departure only if there is a stream.
  unfold Connection.label? leaving
  cases connection.phase with
  | serving stream => exact .goes .stays
  | waiting => exact .stays
  | ended => exact .stays

/-- An ended connection has no live stream. -/
theorem served_finish (plane : Plane) (name : String) (connection : Connection) :
    (plane.finish name connection).served name = none := by
  -- What is left under the name is a connection that has ended.
  unfold served
  rw [get?_finish]
  rfl

/-- A stream that is served stays if it is heard, and departs otherwise. -/
theorem visits_serving (plane : Plane) (name : String) (connection : Connection) (stream : Stream) :
    Visits name (some stream.session.label) (serving name connection stream.session.label)
      ((plane.serve name connection stream).served name) := by
  unfold serving serve
  by_cases heard : connection.isHeard = true
  · -- Sending leaves the stream its label, so its name stays there.
    rw [if_pos heard, if_pos heard, served_put, if_pos rfl]
    simp only [Connection.label?, Stream.label_push]
    exact .stays
  · -- The stream ends, and with it the watch.
    rw [if_neg heard, if_neg heard, served_finish]
    exact .goes .stays

/-- Closing a connection leaves the name without a live stream. -/
theorem served_close (plane : Plane) (name : String) : (plane.close name).served name = none := by
  -- There is no connection, or one that has ended, or one that ends now.
  unfold close
  cases found : plane.connections.get? name with
  | none => exact congrArg (Option.bind · Connection.label?) found
  | some connection =>
    dsimp only
    split
    · -- What has ended has no live stream any more.
      rename_i ended
      unfold served Connection.label?
      unfold Connection.isEnded at ended
      rw [found]
      cases phase : connection.phase <;> simp_all
    · exact plane.served_finish name connection

/-- Ending whatever there is under a name is the departure of its stream, if it has one. -/
theorem visits_end (plane : Plane) (name : String) :
    Visits name (plane.served name)
      (((plane.connections.get? name).map (leaving name)).getD []) none := by
  -- Without a connection there is nothing to leave.
  unfold served
  cases plane.connections.get? name with
  | none => exact .stays
  | some connection => exact visits_leaving name connection

/-- What a name is served when its connection is known. -/
theorem served_of_get? {plane : Plane} {name : String} {connection : Connection}
    (found : plane.connections.get? name = some connection) :
    plane.served name = connection.label? := by
  unfold served
  rw [found]
  rfl

/-- A request lets a stream come, or leaves it where it is. -/
theorem visits_request (plane : Plane) (name : String) (request : DiscoveryRequest) :
    Visits name (plane.served name) (plane.operations (.request name request))
      ((plane.request name request).served name) := by
  -- There is one case for each phase that the connection can be in.
  simp only [Plane.request, operations]
  cases found : plane.connections.get? name with
  | none => exact .stays
  | some connection =>
    have here := served_of_get? found
    dsimp only
    cases phase : connection.phase with
    | ended => exact .stays
    | serving stream =>
      -- The stream takes the request and is served further under its label.
      have visits := plane.visits_serving name connection (stream.receive (.request request))
      rw [Stream.label_receive] at visits
      rw [here, Connection.label?, phase]
      exact visits
    | waiting =>
      -- The first request subscribes to the label of its node, and a new stream is served there.
      let label := Node.labelOf request.node
      let next := plane.withCache (plane.cache.subscribe name label)
      have visits := next.visits_serving name connection
        (.opened (next.cache.current label) request)
      rw [Stream.label_opened, Cache.label_current] at visits
      rw [here, Connection.label?, phase]
      exact .comes visits

/-- Looking for news leaves a stream where it is. -/
theorem visits_showNews (plane : Plane) (name : String) :
    Visits name (plane.served name) (plane.operations (.woken name))
      ((plane.showNews name).served name) := by
  -- Only a name that both is connected and watches can have news.
  simp only [showNews, operations]
  cases found : plane.connections.get? name with
  | none => exact .stays
  | some connection =>
    have here := served_of_get? found
    cases plane.cache.watchers.get? name with
    | none => exact .stays
    | some watcher =>
      dsimp only
      cases phase : connection.phase with
      | waiting => exact .stays
      | ended => exact .stays
      | serving stream =>
        dsimp only
        split
        · -- The stream is shown the news and served further under its label.
          have visits := (plane.withCache (plane.cache.look name)).visits_serving name connection
            (stream.receive (.snapshot (plane.cache.current watcher.label)))
          rw [Stream.label_receive] at visits
          rw [here, Connection.label?, phase]
          exact .looks visits
        · exact .stays

/-- Giving up an answer leaves a stream where it is. -/
theorem visits_expire (plane : Plane) (name : String) :
    Visits name (plane.served name) (plane.operations (.overdue name))
      ((plane.expire name).served name) := by
  -- Only a stream that waits for an answer can be overdue.
  simp only [expire, operations]
  cases found : plane.connections.get? name with
  | none => exact .stays
  | some connection =>
    have here := served_of_get? found
    dsimp only
    cases phase : connection.phase with
    | waiting => exact .stays
    | ended => exact .stays
    | serving stream =>
      dsimp only
      split
      · -- The stream gives up the answer and is served further under its label.
        have visits := plane.visits_serving name connection (stream.receive .deadline)
        rw [Stream.label_receive] at visits
        rw [here, Connection.label?, phase]
        exact visits
      · exact .stays

/-- Taking no more responses is the departure of a stream, if there is one. -/
theorem served_deafen (plane : Plane) (name : String) : (plane.deafen name).served name = none := by
  -- A live stream is ended, and without one there is none afterwards.
  unfold deafen
  cases found : plane.connections.get? name with
  | none => exact congrArg (Option.bind · Connection.label?) found
  | some connection =>
    dsimp only
    cases phase : connection.phase with
    | serving stream => exact served_finish ..
    | waiting => exact (served_put ..).trans (if_pos rfl)
    | ended => exact (served_put ..).trans (if_pos rfl)

/-- Every turn lets one name visit the cache, or publishes and moves nobody. -/
theorem visitOf_turn (plane : Plane) (event : Event) :
    (∃ name, plane.VisitOf name (plane.operations event) (plane.turn event)) ∨
      (∀ operation ∈ plane.operations event, ∃ label resources,
        operation = .publish label resources) ∧
      (plane.turn event).connections = plane.connections := by
  -- There is one case for each event; only the two that publish are about no name.
  cases event with
  | command command =>
    refine Or.inr ⟨fun operation member => ?_, rfl⟩
    -- All that a command asks for are publications.
    obtain ⟨label, -, same⟩ := List.mem_map.mp member
    exact ⟨label, _, same.symm⟩
  | published label resources =>
    refine Or.inr ⟨fun operation member => ?_, rfl⟩
    exact ⟨label, resources, List.mem_singleton.mp member⟩
  | opened name =>
    refine Or.inl ⟨name, ?_, (plane.turnOf_connect name).concerns.served⟩
    -- Under the new connection there is no stream yet.
    have fresh : (plane.connect name).served name = none := (served_put ..).trans (if_pos rfl)
    exact fresh.symm ▸ plane.visits_end name
  | closed name =>
    refine Or.inl ⟨name, ?_, (plane.turnOf_close name).concerns.served⟩
    exact (plane.served_close name).symm ▸ plane.visits_end name
  | deafened name =>
    refine Or.inl ⟨name, ?_, (plane.turnOf_deafen name).concerns.served⟩
    exact (plane.served_deafen name).symm ▸ plane.visits_end name
  | request name request =>
    exact Or.inl ⟨name, plane.visits_request name request,
      (plane.turnOf_request name request).concerns.served⟩
  | woken name =>
    exact Or.inl ⟨name, plane.visits_showNews name, (plane.turnOf_showNews name).concerns.served⟩
  | overdue name =>
    exact Or.inl ⟨name, plane.visits_expire name, (plane.turnOf_expire name).concerns.served⟩
  | elapsed time => exact Or.inr ⟨fun _ member => absurd member List.not_mem_nil, rfl⟩
  | stopped => exact Or.inr ⟨fun _ member => absurd member List.not_mem_nil, rfl⟩

/-- Whether what was asked of the cache shows the live streams as those who watch, and nothing else
is left of those who have gone. -/
structure Shows (operations : List Cache.Operation) (plane : Plane) : Prop where
  unasked : ∀ label, .snapshot label ∉ operations
  watched : ∀ name, Cache.watched name operations = plane.served name
  settled : Settled operations

/-- What is asked in a turn shows the live streams after it. -/
theorem Shows.turn {operations : List Cache.Operation} {plane : Plane}
    (shows : Shows operations plane) (event : Event) :
    Shows (operations ++ plane.operations event) (plane.turn event) := by
  rcases plane.visitOf_turn event with ⟨name, visits, others⟩ | ⟨publish, same⟩
  · -- The one whose turn it is has moved, and nobody else.
    have moves := visits.moves (shows.watched name)
    refine ⟨fun label member => ?_, fun other => ?_, moves.settled shows.settled⟩
    · exact (List.mem_append.mp member).elim (shows.unasked label) (moves.unasked label)
    · by_cases own : name = other
      · exact own ▸ moves.watched
      · rw [moves.others other (Ne.symm own), others other own, shows.watched]
  · -- Publications leave everyone where they are.
    have moves : ∀ name, Cache.Moves name operations (plane.operations event) _ :=
      fun name => Cache.moves_publish name publish
    refine ⟨fun label member => ?_, fun other => ?_, (moves "").settled shows.settled⟩
    · exact (List.mem_append.mp member).elim (shows.unasked label) ((moves "").unasked label)
    · rw [(moves other).watched, shows.watched, served, served, same]

/-- What was asked in any turns shows the live streams. -/
theorem shows_turns (compileOptions : CompileOptions) (listener : ListenerSettings)
    (maxExtracted : Nat) (ackTimeout : Duration) (nonceOf : Nat → String) (events : List Event) :
    let start := idle compileOptions listener maxExtracted ackTimeout nonceOf
    Shows (start.history events) (start.turns events) := by
  intro start
  -- The induction is on the events, with one more at the end.
  induction events using List.reverseRecOn with
  | nil => exact ⟨fun _ => List.not_mem_nil, fun _ => rfl, Cache.settled_nil⟩
  | append_singleton events event ih =>
    rw [history_concat, turns_concat]
    exact ih.turn event

/-- A name is served a label exactly if the stream of its connection is live and has the label. -/
theorem served_eq_some {plane : Plane} {name : String} {label : Label} :
    plane.served name = some label ↔ ∃ connection stream,
      plane.connections.get? name = some connection ∧ connection.phase = .serving stream ∧
        stream.session.label = label := by
  -- Only the phase of serving has a stream.
  unfold served Connection.label?
  cases plane.connections.get? name with
  | none => simp
  | some connection =>
    simp only [Option.bind_some, Option.some.injEq, exists_and_left, exists_eq_left']
    cases connection.phase <;> simp

/-- After any turns the known labels are exactly those that were published to and those of the live
streams. Also if those who go let go of their labels later than they leave, in whatever order all of
them come, leave, let go and publish, the known labels are those published to and those watched as
soon as everyone who left a label has let go of it. -/
theorem known_iff_published_or_live (compileOptions : CompileOptions) (listener : ListenerSettings)
    (maxExtracted : Nat) (ackTimeout : Duration) (nonceOf : Nat → String) (label : Label) :
    let start := idle compileOptions listener maxExtracted ackTimeout nonceOf
    (∀ events, label ∈ (start.turns events).cache.labels ↔
      Cache.publications label (start.history events) ≠ [] ∨
        ∃ name connection stream, (start.turns events).connections.get? name = some connection ∧
          connection.phase = .serving stream ∧ stream.session.label = label) ∧
    ∀ operations, (∀ other, .snapshot other ∉ operations) → ¬ Cache.Lingers label operations →
      (label ∈ (Cache.empty.run operations).labels ↔ Cache.publications label operations ≠ [] ∨
        ∃ name, Cache.watched name operations = some label) := by
  intro start
  have known : ∀ operations, (∀ other, .snapshot other ∉ operations) →
      ¬ Cache.Lingers label operations →
      (label ∈ (Cache.empty.run operations).labels ↔ Cache.publications label operations ≠ [] ∨
        ∃ name, Cache.watched name operations = some label) := fun operations unasked gone => by
    -- Nobody who left is still to let go.
    rw [Cache.mem_labels_run unasked, or_iff_left gone]
  -- Turns ask the cache such operations, and those who watch are the live streams.
  refine ⟨fun events => ?_, known⟩
  have shows : Shows (start.history events) (start.turns events) :=
    shows_turns compileOptions listener maxExtracted ackTimeout nonceOf events
  have cache : (start.turns events).cache = Cache.empty.run (start.history events) :=
    start.cache_turns events
  rw [cache, known _ shows.unasked (shows.settled label)]
  simp only [shows.watched, served_eq_some]

end Plane

end ControlPlane
