import ControlPlane.Discovery.Session
import ControlPlane.Discovery.Snapshot

/-! The loop of one subscriber's stream, as a function of what happens to it. -/

namespace ControlPlane

/-- A response to a subscriber. -/
structure DiscoveryResponse where
  kind : ResourceKind
  version : Nat
  nonce : String
  resources : List (List UInt8)
deriving DecidableEq, Repr

/-- What happens to a stream that has a label. -/
inductive StreamEvent where
  | request (request : DiscoveryRequest)
  | snapshot (snapshot : Snapshot)
  /-- The time for an answer is over. -/
  | deadline

/-- A stream that has a label: its session, and the snapshot that it sends from. -/
structure Stream where
  session : Session
  current : Snapshot
deriving DecidableEq

namespace Stream

/-- Takes an event into account, without sending anything. -/
def receive (stream : Stream) : StreamEvent → Stream
  | .request request => { stream with session := (stream.session.handle request).1 }
  | .snapshot snapshot => ⟨stream.session.onSnapshot snapshot.version, snapshot⟩
  | .deadline => { stream with session := stream.session.expire.1 }

/-- The response of a kind from the snapshot that a stream holds, for the names on record. -/
def response (stream : Stream) (kind : ResourceKind) (nonce : String) : DiscoveryResponse :=
  ⟨kind, stream.current.version, nonce,
    Wire.encode kind (stream.session.of kind).names.items stream.current.resources⟩

/-- Sends what is due next, with a nonce that no response had before. -/
def push (stream : Stream) (nonce : String) (now : Duration) :
    Stream × Option DiscoveryResponse :=
  match stream.session.next with
  | (_, none) => (stream, none)
  | (session, some kind) =>
    ({ stream with session := session.recordSent kind stream.current.version nonce now },
      some (stream.response kind nonce))

/-- One turn of the loop: an event, and then the response that is due. -/
def step (stream : Stream) (event : StreamEvent) (nonce : String) (now : Duration) :
    Stream × Option DiscoveryResponse :=
  (stream.receive event).push nonce now

/-- The stream that the first request opens, before anything is sent. -/
def opened (snapshot : Snapshot) (first : DiscoveryRequest) : Stream :=
  ⟨((Session.new snapshot.label).handle first).1, snapshot⟩

end Stream

end ControlPlane
