import ControlPlane.Plane.Basic
import ControlPlane.Proofs.Deploy.Deployer
import ControlPlane.Proofs.Discovery.Stream

/-! What one turn of the control plane does to the connection of one name, and to all others. -/

namespace ControlPlane.Plane

/-- A connection that is put under a name is there, and every other name keeps its own. -/
theorem get?_put (plane : Plane) (name other : String) (connection : Connection) :
    (plane.put name connection).connections.get? other =
      if name = other then some connection else plane.connections.get? other :=
  OrderedMap.get?_insert ..

/-- Whether a name has the connection that it had, and watches what it watched. -/
def Untouched (before after : Plane) (name : String) : Prop :=
  after.connections.get? name = before.connections.get? name ∧
    after.cache.watchers.get? name = before.cache.watchers.get? name

/-- Whether streams wait for answers as long as before, and have their nonces from where they had
them. -/
def SameSettings (before after : Plane) : Prop :=
  after.ackTimeout = before.ackTimeout ∧ after.nonceOf = before.nonceOf

/-- Whether something concerns the connection of one name alone: it publishes nothing, and leaves
the deployed APIs, the settings of streams and all other connections as they are. -/
structure Concerns (name : String) (before after : Plane) : Prop where
  others : ∀ other, name ≠ other → before.Untouched after other
  current : ∀ label, after.cache.current label = before.cache.current label
  deployer : ∃ cache, after.deployer = { before.deployer with cache }
  settings : before.SameSettings after

/-- A turn that changes nothing concerns nobody. -/
theorem Concerns.refl (name : String) (plane : Plane) : Concerns name plane plane :=
  ⟨fun _ _ => ⟨rfl, rfl⟩, fun _ => rfl, ⟨plane.cache, rfl⟩, rfl, rfl⟩

/-- Two things that concern one name alone do so together. -/
theorem Concerns.trans {name : String} {first second third : Plane}
    (early : Concerns name first second) (late : Concerns name second third) :
    Concerns name first third where
  others other apart :=
    ⟨(late.others other apart).1.trans (early.others other apart).1,
      (late.others other apart).2.trans (early.others other apart).2⟩
  current label := (late.current label).trans (early.current label)
  deployer := by
    -- The later change replaces the cache once more.
    obtain ⟨cache, same⟩ := late.deployer
    obtain ⟨cache', same'⟩ := early.deployer
    exact ⟨cache, by rw [same, same']⟩
  settings := ⟨late.settings.1.trans early.settings.1, late.settings.2.trans early.settings.2⟩

/-- What leaves all connections and the deployer as they are concerns nobody, and so no other than
any one name. -/
theorem concerns_of_eq (name : String) {before after : Plane}
    (connections : after.connections = before.connections)
    (deployer : after.deployer = before.deployer)
    (settings : before.SameSettings after) : Concerns name before after where
  others other _ := ⟨by rw [connections], by unfold cache; rw [deployer]⟩
  current _ := by unfold cache; rw [deployer]
  deployer := ⟨before.cache, deployer⟩
  settings := settings

/-- Putting a connection under a name concerns that name alone. -/
theorem concerns_put (plane : Plane) (name : String) (connection : Connection) :
    Concerns name plane (plane.put name connection) where
  others other apart := ⟨by rw [get?_put, if_neg apart], rfl⟩
  current _ := rfl
  deployer := ⟨plane.cache, rfl⟩
  settings := ⟨rfl, rfl⟩

/-- A change of what one name watches concerns that name alone. -/
theorem concerns_withCache {plane : Plane} {name : String} {cache : Cache}
    (watchers : ∀ other, name ≠ other →
      cache.watchers.get? other = plane.cache.watchers.get? other)
    (current : ∀ label, cache.current label = plane.cache.current label) :
    Concerns name plane (plane.withCache cache) where
  others other apart := ⟨rfl, watchers other apart⟩
  current := current
  deployer := ⟨cache, rfl⟩
  settings := ⟨rfl, rfl⟩

/-- Subscribing concerns the one who does so. -/
theorem concerns_subscribe (plane : Plane) (name : String) (label : Label) :
    Concerns name plane (plane.withCache (plane.cache.subscribe name label)) := by
  refine concerns_withCache (fun other apart => ?_) fun other => plane.cache.current_subscribe ..
  -- The subscription is put under the one's own name.
  exact (OrderedMap.get?_insert ..).trans (if_neg apart)

/-- Looking concerns the one who does so. -/
theorem concerns_look (plane : Plane) (name : String) :
    Concerns name plane (plane.withCache (plane.cache.look name)) := by
  refine concerns_withCache (fun other apart => ?_) fun other => plane.cache.current_look ..
  -- Looking changes what is seen under one name.
  rw [Cache.get?_watchers_look, if_neg apart]

/-- Leaving a label concerns the one who does so, even if nobody else keeps the label. -/
theorem concerns_leave (plane : Plane) (name : String) (label : Label) :
    Concerns name plane
      (plane.withCache ((plane.cache.unsubscribe name).release label)) := by
  -- Releasing a label leaves the watchers as they are, and the snapshots as they are seen.
  refine concerns_withCache (fun other apart => ?_) fun other => by simp
  rw [Cache.watchers_release]
  exact (OrderedMap.get?_erase ..).trans (if_neg apart)

/-- Ending a stream concerns its name alone. -/
theorem concerns_finish (plane : Plane) (name : String) (connection : Connection) :
    Concerns name plane (plane.finish name connection) := by
  -- Only a stream that was served watches a label.
  unfold finish
  split
  · exact (plane.concerns_leave name _).trans (concerns_put ..)
  · exact concerns_put ..

/-- The connection of a stream that is ended stays, with what was sent on it. -/
theorem get?_finish (plane : Plane) (name : String) (connection : Connection) :
    (plane.finish name connection).connections.get? name =
      some { connection with phase := .ended } := by
  -- In either case the ended connection is what is put last.
  unfold finish
  split <;> rw [get?_put, if_pos rfl]

/-- What a stream is given in a turn, when the turn is its own: the stream as it is before it sends
what is due, and what its name watches from then on. -/
inductive Given (plane : Plane) (name : String) (connection : Connection) :
    Event → Stream → Option Watcher → Prop where
  | opened {request : DiscoveryRequest} (waiting : connection.phase = .waiting) :
    Given plane name connection (.request name request)
      (.opened (plane.cache.current (Node.labelOf request.node)) request)
      (some ⟨Node.labelOf request.node,
        (plane.cache.current (Node.labelOf request.node)).version⟩)
  | requested {request : DiscoveryRequest} {stream : Stream}
    (serving : connection.phase = .serving stream) :
    Given plane name connection (.request name request) (stream.receive (.request request))
      (plane.cache.watchers.get? name)
  | woken {stream : Stream} {watcher : Watcher} (serving : connection.phase = .serving stream)
    (watching : plane.cache.watchers.get? name = some watcher)
    (news : plane.cache.hasNews watcher = true) :
    Given plane name connection (.woken name)
      (stream.receive (.snapshot (plane.cache.current watcher.label)))
      (some ⟨watcher.label, (plane.cache.current watcher.label).version⟩)
  | overdue {stream : Stream} (serving : connection.phase = .serving stream)
    (late : plane.isOverdue stream = true) :
    Given plane name connection (.overdue name) (stream.receive .deadline)
      (plane.cache.watchers.get? name)

/-- A connection after its stream has sent what is due in a turn. -/
def sentOn (plane : Plane) (connection : Connection) (stream : Stream) : Connection :=
  let pushed := stream.push (plane.nonceOf connection.responses.length) plane.now
  { connection with
    phase := .serving pushed.1, responses := connection.responses ++ pushed.2.toList }

/-- What a turn can come to for one name. -/
inductive Turned (before : Plane) (event : Event) (name : String) (after : Plane) : Prop where
  | untouched (same : before.Untouched after name)
  | begun (opening : event = .opened name) (found : after.connections.get? name = some {})
  | ended {connection : Connection} {isHeard : Bool}
    (was : before.connections.get? name = some connection)
    (found : after.connections.get? name = some { connection with phase := .ended, isHeard })
  /-- The subscriber takes no responses, but no stream has begun. -/
  | deafened {connection : Connection} (was : before.connections.get? name = some connection)
    (waiting : connection.phase = .waiting)
    (found : after.connections.get? name = some { connection with isHeard := false })
  | served {connection : Connection} {stream : Stream} {watcher : Option Watcher}
    (was : before.connections.get? name = some connection)
    (given : before.Given name connection event stream watcher)
    (found : after.connections.get? name = some (before.sentOn connection stream))
    (watches : after.cache.watchers.get? name = watcher)

/-- Whether a turn that is about one name comes to one of these things for it, and concerns no
other. -/
structure TurnOf (name : String) (before : Plane) (event : Event) (after : Plane) : Prop where
  concerns : Concerns name before after
  turned : Turned before event name after

/-- A turn may come to nothing. -/
theorem TurnOf.nothing (name : String) (plane : Plane) (event : Event) :
    TurnOf name plane event plane :=
  ⟨.refl name plane, .untouched ⟨rfl, rfl⟩⟩

/-- A turn may come to the end of a stream. -/
theorem turnOf_finish {before middle : Plane} {event : Event} {name : String}
    {connection : Connection} {phase : Phase} {isHeard : Bool}
    (was : before.connections.get? name = some connection)
    (concerns : Concerns name before middle) :
    TurnOf name before event (middle.finish name { connection with phase, isHeard }) where
  concerns := concerns.trans (concerns_finish ..)
  turned := .ended was (get?_finish ..)

/-- A stream that is served after it was given something sends what is due, or it ends. -/
theorem turnOf_serve {before middle : Plane} {event : Event} {name : String}
    {connection : Connection} {stream : Stream} {watcher : Option Watcher}
    (was : before.connections.get? name = some connection)
    (given : before.Given name connection event stream watcher)
    (concerns : Concerns name before middle) (watches : middle.cache.watchers.get? name = watcher)
    (now : middle.now = before.now) (nonces : middle.nonceOf = before.nonceOf) :
    TurnOf name before event (middle.serve name connection stream) := by
  unfold serve
  split
  · -- The nonce and the time are those at which the turn began.
    refine ⟨concerns.trans (concerns_put ..), .served was given ?_ watches⟩
    rw [get?_put, if_pos rfl, now, nonces]
    rfl
  · exact turnOf_finish was concerns

/-- Closing ends the stream of the name, if there is one. -/
theorem turnOf_close (plane : Plane) (name : String) :
    TurnOf name plane (.closed name) (plane.close name) := by
  unfold close
  -- There is a connection, and it may have ended before.
  split
  · rename_i connection found
    split
    · -- What has ended does not end again.
      exact .nothing ..
    · exact turnOf_finish found (.refl name plane)
  · exact .nothing ..

/-- Connecting begins a stream, in place of the one that the name had. -/
theorem turnOf_connect (plane : Plane) (name : String) :
    TurnOf name plane (.opened name) (plane.connect name) where
  concerns := (plane.turnOf_close name).concerns.trans (concerns_put ..)
  turned := .begun rfl ((get?_put ..).trans (if_pos rfl))

/-- A request is given to the stream that it comes on, and the first one opens it. -/
theorem turnOf_request (plane : Plane) (name : String) (request : DiscoveryRequest) :
    TurnOf name plane (.request name request) (plane.request name request) := by
  unfold Plane.request
  split
  · -- There is no connection for the request to come on.
    exact .nothing ..
  · rename_i connection found
    split
    · -- The stream has ended, and nobody reads the request.
      exact .nothing ..
    · -- A request on a stream that goes on is handed to its session.
      rename_i stream serving
      exact turnOf_serve found (.requested serving) (.refl name plane) rfl rfl rfl
    · -- The first request subscribes to a label before anything is sent.
      rename_i waiting
      let label := Node.labelOf request.node
      have snapshot : (plane.withCache (plane.cache.subscribe name label)).cache.current label =
          plane.cache.current label := plane.cache.current_subscribe ..
      dsimp only
      rw [snapshot]
      refine turnOf_serve found (.opened waiting) (plane.concerns_subscribe name label) ?_ rfl rfl
      exact (OrderedMap.get?_insert ..).trans (if_pos rfl)

/-- Taking no more responses ends the stream of the one who does so, if it has begun. -/
theorem turnOf_deafen (plane : Plane) (name : String) :
    TurnOf name plane (.deafened name) (plane.deafen name) := by
  unfold deafen
  split
  · -- Nobody is there to take responses.
    exact .nothing ..
  · rename_i connection found
    dsimp only
    -- What has not begun waits on, and what has ended stays so.
    cases phase : connection.phase with
    | serving stream => exact turnOf_finish found (.refl name plane)
    | waiting =>
      refine ⟨concerns_put .., .deafened found phase ?_⟩
      rw [get?_put, if_pos rfl, phase]
    | ended => exact ⟨concerns_put .., .ended found ((get?_put ..).trans (if_pos rfl))⟩

/-- Looking for news shows a stream the snapshot that it has not seen. -/
theorem turnOf_showNews (plane : Plane) (name : String) :
    TurnOf name plane (.woken name) (plane.showNews name) := by
  unfold showNews
  split
  · rename_i connection watcher found watching
    split
    · rename_i stream serving
      split
      · -- Having looked, the name has seen what the stream is shown.
        rename_i news
        refine turnOf_serve found (.woken serving watching news) (plane.concerns_look name) ?_ rfl
          rfl
        refine (plane.cache.get?_watchers_look name name).trans ?_
        rw [if_pos rfl, watching]
        rfl
      · -- The version is the one that was seen last.
        exact .nothing ..
    · -- The connection serves no stream that could look.
      exact .nothing ..
  · -- Nobody watches under the name.
    exact .nothing ..

/-- An overdue answer is given up. -/
theorem turnOf_expire (plane : Plane) (name : String) :
    TurnOf name plane (.overdue name) (plane.expire name) := by
  unfold expire
  split
  · -- There is no connection, so nothing is overdue.
    exact .nothing ..
  · rename_i connection found
    split
    · rename_i stream serving
      split
      · -- The answer that is given up was in flight on this stream.
        rename_i late
        exact turnOf_serve found (.overdue serving late) (.refl name plane) rfl rfl rfl
      · -- There is time left for the answer, or none is awaited.
        exact .nothing ..
    · exact .nothing ..

/-- What a turn comes to for the name that it is about leaves any other name as it was. -/
theorem TurnOf.turned_other {name : String} {before after : Plane} {event : Event}
    (turn : TurnOf name before event after) (other : String) : Turned before event other after := by
  -- It is the one name, or one of those that the turn does not concern.
  by_cases same : name = other
  · exact same ▸ turn.turned
  · exact .untouched (turn.concerns.others other same)

/-- Every turn comes to one of these things, for every name. -/
theorem turned (plane : Plane) (event : Event) (name : String) :
    Turned plane event name (plane.turn event) := by
  -- The cases are the events.
  cases event with
  | command command =>
    -- Commands leave the watchers alone, and the connections.
    have watchers := (plane.deployer.changed_perform command).watchers
    exact .untouched ⟨rfl, congrArg (fun map => OrderedMap.get? map name) watchers⟩
  | published label resources => exact .untouched ⟨rfl, rfl⟩
  -- These are about one name, which may be this one or another.
  | opened other => exact (plane.turnOf_connect other).turned_other name
  | request other request => exact (plane.turnOf_request other request).turned_other name
  | woken other => exact (plane.turnOf_showNews other).turned_other name
  | overdue other => exact (plane.turnOf_expire other).turned_other name
  | closed other => exact (plane.turnOf_close other).turned_other name
  | deafened other => exact (plane.turnOf_deafen other).turned_other name
  -- The clock and the end of the program are nobody's.
  | elapsed time => exact .untouched ⟨rfl, rfl⟩
  | stopped => exact .untouched ⟨rfl, rfl⟩

/-- A turn that adds a response to a connection is one in which its stream sends it. -/
theorem Turned.sent {before after : Plane} {event : Event} {name : String}
    (turned : Turned before event name after) {old new : Connection} {response : DiscoveryResponse}
    (was : before.connections.get? name = some old) (found : after.connections.get? name = some new)
    (sent : new.responses = old.responses ++ [response]) :
    ∃ stream watcher next, before.Given name old event stream watcher ∧
      stream.push (before.nonceOf old.responses.length) before.now = (next, some response) ∧
      new.phase = .serving next := by
  -- In every other case the connection has no more responses than before.
  have more : new.responses ≠ old.responses := by simp [sent]
  cases turned with
  | untouched same => exact absurd (by cases (same.1.symm.trans found).symm.trans was; rfl) more
  | begun _ fresh =>
    -- On a new connection nothing was sent.
    cases fresh.symm.trans found
    simp at sent
  | ended was' ends =>
    cases was'.symm.trans was
    cases ends.symm.trans found
    exact absurd rfl more
  | deafened was' _ still =>
    cases was'.symm.trans was
    cases still.symm.trans found
    exact absurd rfl more
  | @served connection stream watcher was' given pushed _ =>
    cases was'.symm.trans was
    cases pushed.symm.trans found
    -- What is added is what the stream sent.
    have added := List.append_cancel_left (sent : old.responses ++ _ = _)
    cases result : stream.push (before.nonceOf old.responses.length) before.now with
    | mk next pushed =>
      rw [result] at added
      have only : pushed = some response := by
        cases pushed with
        | none => cases added
        | some other => rw [(List.cons.inj added).1]
      exact ⟨stream, watcher, next, given, by rw [result, only], by simp [sentOn, result]⟩

/-- What a turn can do to the deployer: a command, a publication by someone else, or nothing but a
change of what is watched. -/
inductive Published (before : Plane) : Event → Plane → Prop where
  | command {event : Event} {after : Plane} (changed : before.deployer.Changed after.deployer)
    (settings : before.SameSettings after) : Published before event after
  | foreign {label : Label} {resources : ResourceSet} {after : Plane}
    (published : after = before.withCache (before.cache.publish label resources)) :
    Published before (.published label resources) after
  | nothing {event : Event} {after : Plane} {name : String}
    (concerns : Concerns name before after) : Published before event after

/-- Every turn does one of these things to the deployer. -/
theorem published (plane : Plane) (event : Event) : Published plane event (plane.turn event) := by
  -- Commands and publications reach the cache, and all other events are about one name or none.
  cases event with
  | command command => exact .command (plane.deployer.changed_perform command) ⟨rfl, rfl⟩
  | published label resources => exact .foreign rfl
  | opened name => exact .nothing (plane.turnOf_connect name).concerns
  | request name request => exact .nothing (plane.turnOf_request name request).concerns
  | woken name => exact .nothing (plane.turnOf_showNews name).concerns
  | overdue name => exact .nothing (plane.turnOf_expire name).concerns
  | closed name => exact .nothing (plane.turnOf_close name).concerns
  | deafened name => exact .nothing (plane.turnOf_deafen name).concerns
  | elapsed time => exact .nothing (concerns_of_eq "" rfl rfl ⟨rfl, rfl⟩)
  | stopped => exact .nothing (concerns_of_eq "" rfl rfl ⟨rfl, rfl⟩)

/-- No turn takes a label back to an earlier version. -/
theorem advances_turn (plane : Plane) (event : Event) :
    plane.cache.Advances (plane.turn event).cache := by
  -- What concerns one name publishes nothing, so only publications count.
  cases plane.published event with
  | command changed _ => exact changed.advances
  | @foreign label resources _ published =>
    rw [published]
    exact plane.cache.advances_publish label resources
  | nothing concerns => exact .of_current_eq concerns.current

/-- No turn changes the settings of streams. -/
theorem sameSettings_turn (plane : Plane) (event : Event) :
    plane.SameSettings (plane.turn event) := by
  -- A publication is of labels alone.
  cases plane.published event with
  | command _ settings => exact settings
  | foreign published => rw [published]; exact ⟨rfl, rfl⟩
  | nothing concerns => exact concerns.settings

/-- No turn changes how long streams wait for answers. -/
theorem ackTimeout_turn (plane : Plane) (event : Event) :
    (plane.turn event).ackTimeout = plane.ackTimeout := (plane.sameSettings_turn event).1

/-- Turns and then other turns are turns. -/
theorem turns_append (plane : Plane) (first later : List Event) :
    plane.turns (first ++ later) = (plane.turns first).turns later := List.foldl_append ..

/-- Turns and then one more. -/
theorem turns_concat (plane : Plane) (events : List Event) (event : Event) :
    plane.turns (events ++ [event]) = (plane.turns events).turn event := plane.turns_append events _

/-- No connection is replaced in turns and one more if none is in the turns, and none in the last. -/
theorem opened_notMem_concat {name : String} {events : List Event} {event : Event} :
    .opened name ∉ events ++ [event] ↔ .opened name ∉ events ∧ event ≠ .opened name := by
  rw [List.mem_append, List.mem_singleton, not_or, ← ne_eq, ne_comm]

/-- What every turn preserves holds after any number of them. -/
theorem turns_induction (holds : Plane → Prop) {plane : Plane} (start : holds plane)
    {events : List Event}
    (step : ∀ event ∈ events, ∀ plane, holds plane → holds (plane.turn event)) :
    holds (plane.turns events) := by
  -- The induction is over the events, from any state in which it holds.
  unfold turns
  induction events generalizing plane with
  | nil => exact start
  | cons event rest ih =>
    exact ih (step event List.mem_cons_self plane start) fun later member =>
      step later (List.mem_cons_of_mem _ member)

/-- A run in which every stream comes to rest after each event is made of single turns. -/
theorem exists_turns_eq_run (plane : Plane) (events : List Event) :
    ∃ single, plane.run events = plane.turns single := by
  -- The induction is on the events, from the state in which the streams have come to rest.
  induction events generalizing plane with
  | nil => exact ⟨[], rfl⟩
  | cons event rest ih =>
    -- First the event, then the turns in which the streams come to rest, then the other events.
    obtain ⟨later, same⟩ := ih (plane.step event)
    let woken := (plane.turn event).connections.keys.flatMap (plane.turn event).rest
    refine ⟨event :: woken ++ later, ?_⟩
    have first : (plane.turn event).wake = plane.turns (event :: woken) := rfl
    rw [turns_append, ← first]
    exact same

end ControlPlane.Plane
