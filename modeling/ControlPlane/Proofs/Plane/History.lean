import ControlPlane.Plane.Basic
import ControlPlane.Proofs.Deploy.Publications
import ControlPlane.Proofs.Discovery.Stream

/-! The control plane as a client of its cache: what every turn asks of it, and so what was
published to a label, and when. -/

namespace ControlPlane.Plane

/-- What the end of a stream asks of the cache. -/
def leave (name : String) (label : Label) : List Cache.Operation :=
  [.unsubscribe name, .release label]

/-- What the end of a connection asks of the cache, where only a stream that has begun watches. -/
def leaving (name : String) (connection : Connection) : List Cache.Operation :=
  match connection.phase with
  | .serving stream => leave name stream.session.label
  | _ => []

/-- What serving a stream of a label asks of the cache, which is its end if nobody hears it. -/
def serving (name : String) (connection : Connection) (label : Label) : List Cache.Operation :=
  if connection.isHeard then [] else leave name label

/-- What a turn asks of the cache. -/
def operations (plane : Plane) : Event → List Cache.Operation
  | .command command => plane.deployer.publishes command
  | .published label resources => [.publish label resources]
  | .opened name | .closed name | .deafened name =>
    ((plane.connections.get? name).map (leaving name)).getD []
  | .request name request =>
    match plane.connections.get? name with
    | none => []
    | some connection =>
      match connection.phase with
      | .ended => []
      | .serving stream => serving name connection stream.session.label
      | .waiting =>
        let label := Node.labelOf request.node
        .subscribe name label :: serving name connection label
  | .woken name =>
    match plane.connections.get? name, plane.cache.watchers.get? name with
    | some connection, some watcher =>
      match connection.phase with
      | .serving stream =>
        if plane.cache.hasNews watcher then
          .look name :: serving name connection stream.session.label
        else []
      | _ => []
    | _, _ => []
  | .overdue name =>
    match plane.connections.get? name with
    | none => []
    | some connection =>
      match connection.phase with
      | .serving stream =>
        if plane.isOverdue stream then serving name connection stream.session.label else []
      | _ => []
  | .elapsed _ | .stopped => []

/-- What turns ask of the cache, one after the other. -/
def history (plane : Plane) : List Event → List Cache.Operation
  | [] => []
  | event :: rest => plane.operations event ++ (plane.turn event).history rest

/-- What turns ask of the cache, and then other turns. -/
theorem history_append (plane : Plane) (first later : List Event) :
    plane.history (first ++ later) =
      plane.history first ++ (plane.turns first).history later := by
  -- The induction is on the first turns, with any plane that they begin at.
  induction first generalizing plane with
  | nil => rfl
  | cons event rest ih =>
    rw [List.cons_append, history, history, ih, List.append_assoc]
    rfl

/-- What turns ask of the cache, and then one more. -/
theorem history_concat (plane : Plane) (events : List Event) (event : Event) :
    plane.history (events ++ [event]) =
      plane.history events ++ (plane.turns events).operations event := by
  rw [history_append, history, history, List.append_nil]

/-- Ending a connection does to the cache what it asks. -/
theorem cache_finish (plane : Plane) (name : String) (connection : Connection) :
    (plane.finish name connection).cache = plane.cache.run (leaving name connection) := by
  unfold finish leaving
  -- Only a connection that serves a stream has anything to give back.
  cases connection.phase <;> rfl

/-- Serving a stream does to the cache what it asks. -/
theorem cache_serve (plane : Plane) (name : String) (connection : Connection) (stream : Stream) :
    (plane.serve name connection stream).cache =
      plane.cache.run (serving name connection stream.session.label) := by
  -- A stream that nobody hears is ended at once.
  unfold serve serving
  by_cases heard : connection.isHeard = true
  · rw [if_pos heard, if_pos heard]
    rfl
  · rw [if_neg heard, if_neg heard, cache_finish]
    rfl

/-- Closing a connection does to the cache what it asks. -/
theorem cache_close (plane : Plane) (name : String) :
    (plane.close name).cache =
      plane.cache.run (((plane.connections.get? name).map (leaving name)).getD []) := by
  -- A name without a connection asks for nothing, and neither does one that has ended.
  unfold close
  cases plane.connections.get? name with
  | none => rfl
  | some connection =>
    dsimp only
    split
    · -- A connection that has ended asks for nothing more.
      rename_i ended
      unfold Connection.isEnded at ended
      rw [Option.map_some, Option.getD_some, leaving]
      cases phase : connection.phase <;> simp_all [Cache.run]
    · exact plane.cache_finish name connection

/-- All that a turn does to the cache is what it asks of it. -/
theorem cache_turn (plane : Plane) (event : Event) :
    (plane.turn event).cache = plane.cache.run (plane.operations event) := by
  -- There is one case for each event, and in it one for each phase that the connection can be in.
  cases event with
  -- A command asks for what it publishes.
  | command command => exact plane.deployer.cache_perform command
  | published label resources => rfl
  -- A connection that is opened takes the place of the one before, which is closed.
  | opened name => exact plane.cache_close name
  | closed name => exact plane.cache_close name
  | deafened name =>
    simp only [turn, deafen, operations]
    cases plane.connections.get? name with
    | none => rfl
    | some connection =>
      obtain ⟨phase, responses, isHeard⟩ := connection
      cases phase with
      -- Nobody hears the stream from now on, so it ends.
      | serving stream => exact plane.cache_finish name ⟨.serving stream, responses, false⟩
      | waiting => rfl
      | ended => rfl
  | request name request =>
    simp only [turn, Plane.request, operations]
    cases plane.connections.get? name with
    | none => rfl
    | some connection =>
      dsimp only
      cases phase : connection.phase with
      | ended => rfl
      -- An event leaves the stream its label, for which it goes on or ends.
      | serving stream => simp only [cache_serve, Stream.label_receive]
      | waiting =>
        -- The first request subscribes under the label of its node, and then the new stream is
        -- served.
        simp only [cache_serve, Stream.label_opened, Cache.label_current]
        rfl
  | woken name =>
    simp only [turn, showNews, operations]
    cases plane.connections.get? name with
    | none => rfl
    | some connection =>
      cases plane.cache.watchers.get? name with
      | none => rfl
      | some watcher =>
        dsimp only
        cases phase : connection.phase with
        | serving stream =>
          dsimp only
          split
          · -- A watcher that looks has seen what is there, and then its stream is served.
            rw [cache_serve, Stream.label_receive]
            rfl
          · rfl
        | waiting => rfl
        | ended => rfl
  | overdue name =>
    simp only [turn, expire, operations]
    cases plane.connections.get? name with
    | none => rfl
    | some connection =>
      dsimp only
      cases phase : connection.phase with
      | serving stream =>
        dsimp only
        split
        · -- An overdue stream gives up waiting, and goes on under its label.
          rw [cache_serve, Stream.label_receive]
        · rfl
      | waiting => rfl
      | ended => rfl
  | elapsed time => rfl
  | stopped => rfl

/-- All that turns do to the cache is what they ask of it. -/
theorem cache_turns (plane : Plane) (events : List Event) :
    (plane.turns events).cache = plane.cache.run (plane.history events) := by
  -- The induction is on the events, with any plane that they begin at.
  induction events generalizing plane with
  | nil => rfl
  | cons event rest ih =>
    -- What the first event does to the cache is what it asks, and so it goes on from there.
    rw [history, Cache.run_append, ← cache_turn]
    exact ih (plane.turn event)

end ControlPlane.Plane
