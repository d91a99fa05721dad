import ControlPlane.Discovery.Kind
import ControlPlane.Discovery.Node
import ControlPlane.Ordered.Set

/-! The state of one subscriber's stream: what it asked for, what it was sent, and what is next.

At most one response waits for its answer; the others wait in the order of their kinds. -/

namespace ControlPlane

/-- A request of a subscriber. -/
structure DiscoveryRequest where
  typeUrl : String
  /-- The nonce of the response that is answered, or nothing. -/
  nonce : String
  names : List String
  /-- Why the response is rejected, if it is. -/
  rejection : Option String
  node : Option Node

/-- What identifies a response of one kind. -/
structure Sent where
  version : Nat
  nonce : String
deriving DecidableEq, Repr

/-- The state of one kind on a stream. -/
structure Subscription where
  subscribed : Bool := false
  /-- The names that were asked for. -/
  names : OrderedSet String := .empty
  lastSent : Option Sent := none
  /-- The version that was last accepted. -/
  accepted : Option Nat := none
  /-- Whether a response is due. -/
  queued : Bool := false
deriving DecidableEq

/-- A response that waits for its answer. -/
structure InFlight where
  kind : ResourceKind
  nonce : String
  sentAt : Duration
deriving DecidableEq, Repr

/-- What a request means. -/
inductive Outcome where
  | subscribed (kind : ResourceKind)
  | acked (kind : ResourceKind) (version : Nat)
  | nacked (kind : ResourceKind) (version : Nat) (message : String)
  /-- The nonce is not that of the last response of the kind. -/
  | stale (kind : ResourceKind)
  | unknownType (typeUrl : String)
deriving DecidableEq, Repr

/-- The state of a stream. -/
structure Session where
  label : Label
  kinds : PerKind Subscription
  inFlight : Option InFlight
deriving DecidableEq

namespace Session

/-- The state of a stream of a label on which nothing was asked for. -/
def new (label : Label) : Session := ⟨label, .always {}, none⟩

/-- The state of one kind. -/
def of (session : Session) (kind : ResourceKind) : Subscription := session.kinds.get kind

/-- The state with that of one kind changed. -/
def update (session : Session) (kind : ResourceKind) (change : Subscription → Subscription) :
    Session :=
  { session with kinds := session.kinds.set kind (change (session.of kind)) }

/-- Records the names of a kind, and that a response with them is due. -/
def ask (session : Session) (kind : ResourceKind) (names : OrderedSet String) : Session :=
  session.update kind fun s => { s with subscribed := true, names, queued := true }

/-- Forgets the response in flight if it is of a kind and has a nonce. -/
def settle (session : Session) (kind : ResourceKind) (nonce : String) : Session :=
  match session.inFlight with
  | some f =>
    if f.kind = kind ∧ f.nonce = nonce then { session with inFlight := none } else session
  | none => session

/-- Records the answer to the last response of a kind, which had some version. -/
def answered (session : Session) (kind : ResourceKind) (version : Nat)
    (request : DiscoveryRequest) : Session × Outcome :=
  match request.rejection with
  | some message => (session, .nacked kind version message)
  | none =>
    (session.update kind fun s => { s with accepted := some version }, .acked kind version)

/-- Records the names of a kind; a response is due if they are others than before. -/
def rename (session : Session) (kind : ResourceKind) (names : OrderedSet String) : Session :=
  if names = (session.of kind).names then session
  else session.update kind fun s => { s with names, queued := true }

/-- Takes a request into account. -/
def handle (session : Session) (request : DiscoveryRequest) : Session × Outcome :=
  match ResourceKind.ofTypeUrl? request.typeUrl with
  | none => (session, .unknownType request.typeUrl)
  | some kind =>
    let names := OrderedSet.ofList request.names
    let state := session.of kind
    if request.nonce.isEmpty ∨ !state.subscribed then (session.ask kind names, .subscribed kind)
    else match state.lastSent with
      | none => (session, .stale kind)
      | some sent =>
        if sent.nonce ≠ request.nonce then (session, .stale kind)
        else
          let (next, outcome) := (session.settle kind request.nonce).answered kind sent.version
            request
          (next.rename kind names, outcome)

/-- Whether a kind has to be sent at a version. -/
def lacks (version : Nat) (s : Subscription) : Bool :=
  s.subscribed && s.lastSent.map Sent.version != some version

/-- Queues every kind that has to be sent at a new version. -/
def onSnapshot (session : Session) (version : Nat) : Session :=
  let kinds := session.kinds.map fun s => if lacks version s then { s with queued := true } else s
  { session with kinds }

/-- The kinds that wait, in their order. -/
def pending (session : Session) : List ResourceKind :=
  ResourceKind.all.filter fun kind => (session.of kind).queued

/-- Takes the next kind to send from the queue, unless a response waits for its answer. -/
def next (session : Session) : Session × Option ResourceKind :=
  if session.inFlight.isSome then (session, none)
  else match session.pending with
    | [] => (session, none)
    | kind :: _ => (session.update kind fun s => { s with queued := false }, some kind)

/-- Records a response. -/
def recordSent (session : Session) (kind : ResourceKind) (version : Nat) (nonce : String)
    (now : Duration) : Session :=
  { session.update kind fun s => { s with lastSent := some ⟨version, nonce⟩ } with
    inFlight := some ⟨kind, nonce, now⟩ }

/-- Until when the response in flight may be answered. -/
def deadline (session : Session) (timeout : Duration) : Option Duration :=
  session.inFlight.map fun f => ⟨f.sentAt.nanoseconds + timeout.nanoseconds⟩

/-- Gives up waiting for the answer to the response in flight. -/
def expire (session : Session) : Session × Option ResourceKind :=
  ({ session with inFlight := none }, session.inFlight.map InFlight.kind)

/-- What happens to the state of a stream. -/
inductive Call where
  | request (request : DiscoveryRequest)
  | snapshot (version : Nat)
  | next
  | sent (kind : ResourceKind) (version : Nat) (nonce : String) (now : Duration)
  | expire

/-- The state after a call. -/
def call (session : Session) : Call → Session
  | .request request => (session.handle request).1
  | .snapshot version => session.onSnapshot version
  | .next => session.next.1
  | .sent kind version nonce now => session.recordSent kind version nonce now
  | .expire => session.expire.1

/-- The state after calls, one after the other. -/
def run (session : Session) (calls : List Call) : Session := calls.foldl call session

end Session

end ControlPlane
