import ControlPlane.Deploy.Deployer
import ControlPlane.Discovery.Stream

/-! The running control plane: the deployer, the subscribers' streams, and the time.

Every change of a cached snapshot reaches the streams of its label, and every stream sends at most
what its session allows. -/

namespace ControlPlane

/-- How far a subscriber's stream has come. -/
inductive Phase where
  /-- No request has come yet. -/
  | waiting
  | serving (stream : Stream)
  | ended

/-- A subscriber's stream and what was sent on it. -/
structure Connection where
  phase : Phase := .waiting
  /-- The responses so far, the first one first. -/
  responses : List DiscoveryResponse := []
  /-- Whether the subscriber takes responses. -/
  isHeard : Bool := true

/-- Whether a stream has ended. -/
def Connection.isEnded (connection : Connection) : Bool :=
  match connection.phase with
  | .ended => true
  | _ => false

/-- Why the discovery service refuses a call. -/
structure Refusal where
  /-- The status code of the remote call. -/
  code : Nat
  message : String
deriving DecidableEq, Repr

/-- The refusal of incremental discovery. -/
def Refusal.incremental : Refusal :=
  ⟨12, "incremental xDS is not supported; use state-of-the-world ADS"⟩

/-- The nonces of a stream's responses by their places, as they are counted. -/
def countedNonce (sent : Nat) : String := "n" ++ Json.Literal.natText (sent + 1)

/-- The control plane at work. -/
structure Plane where
  deployer : Deployer
  /-- How long a stream waits for the answer to a response. -/
  ackTimeout : Duration
  /-- The nonce of the response that follows so many others on a stream. -/
  nonceOf : Nat → String := countedNonce
  connections : OrderedMap String Connection := .empty
  now : Duration := ⟨0⟩
  isStopped : Bool := false

namespace Plane

/-- A control plane with nothing deployed and nobody connected. -/
def idle (compileOptions : CompileOptions) (listener : ListenerSettings) (maxExtracted : Nat)
    (ackTimeout : Duration) (nonceOf : Nat → String) : Plane :=
  { deployer := .new compileOptions listener maxExtracted, ackTimeout, nonceOf }

/-- The snapshots that streams send from. -/
def cache (plane : Plane) : Cache := plane.deployer.cache

/-- The control plane with another cache. -/
def withCache (plane : Plane) (cache : Cache) : Plane :=
  { plane with deployer := { plane.deployer with cache } }

/-- The control plane with a connection under a name. -/
def put (plane : Plane) (name : String) (connection : Connection) : Plane :=
  { plane with connections := plane.connections.insert name connection }

/-- Whether the time for an answer on a stream is over. -/
def isOverdue (plane : Plane) (stream : Stream) : Bool :=
  (stream.session.deadline plane.ackTimeout).any fun deadline =>
    deadline.nanoseconds ≤ plane.now.nanoseconds

/-- Ends a stream; a label that only it kept is forgotten. -/
def finish (plane : Plane) (name : String) (connection : Connection) : Plane :=
  let plane := match connection.phase with
    | .serving stream =>
      plane.withCache ((plane.cache.unsubscribe name).release stream.session.label)
    | _ => plane
  plane.put name { connection with phase := .ended }

/-- Lets a stream send what is due after something happened to it; without a subscriber it ends. -/
def serve (plane : Plane) (name : String) (connection : Connection) (stream : Stream) : Plane :=
  if connection.isHeard then
    let (stream, response) := stream.push (plane.nonceOf connection.responses.length) plane.now
    plane.put name { connection with
      phase := .serving stream, responses := connection.responses ++ response.toList }
  else plane.finish name { connection with phase := .serving stream }

/-- What happens to the control plane, or to one of its streams. -/
inductive Event where
  | command (command : Deployer.Command)
  /-- Someone else than the deployer publishes to a label. -/
  | published (label : Label) (resources : ResourceSet)
  /-- A subscriber connects. -/
  | opened (name : String)
  | request (name : String) (request : DiscoveryRequest)
  /-- A stream looks for news of its label. -/
  | woken (name : String)
  /-- A stream finds that the answer to a response is overdue. -/
  | overdue (name : String)
  /-- A subscriber ends its requests, or they break off. -/
  | closed (name : String)
  /-- A subscriber takes no more responses. -/
  | deafened (name : String)
  /-- Time passes. -/
  | elapsed (time : Duration)
  | stopped

/-- Ends the stream of a name if there is one that has not ended. -/
def close (plane : Plane) (name : String) : Plane :=
  match plane.connections.get? name with
  | some connection => if connection.isEnded then plane else plane.finish name connection
  | none => plane

/-- Begins a stream, in place of one with its name. -/
def connect (plane : Plane) (name : String) : Plane := (plane.close name).put name {}

/-- Hands a request to a stream; the first one decides its label. -/
def request (plane : Plane) (name : String) (request : DiscoveryRequest) : Plane :=
  match plane.connections.get? name with
  | none => plane
  | some connection =>
    match connection.phase with
    | .ended => plane
    | .serving stream => plane.serve name connection (stream.receive (.request request))
    | .waiting =>
      let label := Node.labelOf request.node
      let plane := plane.withCache (plane.cache.subscribe name label)
      plane.serve name connection (.opened (plane.cache.current label) request)

/-- Notes that a subscriber takes no more responses, which ends a stream that has a label. -/
def deafen (plane : Plane) (name : String) : Plane :=
  match plane.connections.get? name with
  | none => plane
  | some connection =>
    let connection := { connection with isHeard := false }
    match connection.phase with
    | .serving _ => plane.finish name connection
    | _ => plane.put name connection

/-- Shows a stream the snapshot of its label if that is news to it. -/
def showNews (plane : Plane) (name : String) : Plane :=
  match plane.connections.get? name, plane.cache.watchers.get? name with
  | some connection, some watcher =>
    match connection.phase with
    | .serving stream =>
      if plane.cache.hasNews watcher then
        (plane.withCache (plane.cache.look name)).serve name connection
          (stream.receive (.snapshot (plane.cache.current watcher.label)))
      else plane
    | _ => plane
  | _, _ => plane

/-- Gives up the answer that a stream waits for if it is overdue. -/
def expire (plane : Plane) (name : String) : Plane :=
  match plane.connections.get? name with
  | none => plane
  | some connection =>
    match connection.phase with
    | .serving stream =>
      if plane.isOverdue stream then plane.serve name connection (stream.receive .deadline)
      else plane
    | _ => plane

/-- The state after one event; what it makes due on streams is left to later turns. -/
def turn (plane : Plane) : Event → Plane
  | .command command => { plane with deployer := (plane.deployer.perform command).1 }
  | .published label resources => plane.withCache (plane.cache.publish label resources)
  | .opened name => plane.connect name
  | .request name request => plane.request name request
  | .woken name => plane.showNews name
  | .overdue name => plane.expire name
  | .closed name => plane.close name
  | .deafened name => plane.deafen name
  | .elapsed time => { plane with now := ⟨plane.now.nanoseconds + time.nanoseconds⟩ }
  | .stopped => { plane with isStopped := true }

/-- The state after events in any order, as the streams happen to take their turns. -/
def turns (plane : Plane) (events : List Event) : Plane := events.foldl turn plane

/-- The turns after which a stream has nothing left to do: it looks for news, gives up one overdue
answer for each kind that can be due, and ends if all are asked to stop. -/
def rest (plane : Plane) (name : String) : List Event :=
  .woken name :: ResourceKind.all.map (fun _ => .overdue name) ++
    if plane.isStopped then [.closed name] else []

/-- Lets every stream do what it has to do. -/
def wake (plane : Plane) : Plane := plane.turns (plane.connections.keys.flatMap plane.rest)

/-- The next state after an event, when no stream has anything left to do. -/
def step (plane : Plane) (event : Event) : Plane := (plane.turn event).wake

/-- The state after events, each of which finds every stream at rest. -/
def run (plane : Plane) (events : List Event) : Plane := events.foldl step plane

/-- What the discovery service says about itself: the known labels and its patience. -/
def description (plane : Plane) : String :=
  let labels := plane.cache.labels.map fun label => "Label(\"" ++ label.text ++ "\")"
  "SnapshotDiscoveryService \x7b labels: [" ++ String.intercalate ", " labels ++
    "], ack_timeout: " ++ plane.ackTimeout.text ++ " \x7d"

end Plane

end ControlPlane
