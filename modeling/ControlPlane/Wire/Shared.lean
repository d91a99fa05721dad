import ControlPlane.Duration
import ControlPlane.Gateway.Resource
import ControlPlane.Wire.Proto

/-! Messages that several resources contain. -/

namespace ControlPlane.Wire

open Proto

/-- The common beginning of all type URLs. -/
def typeUrl (name : String) : String := "type.googleapis.com/" ++ name

/-- A message of any type, with the type's URL. -/
def typed (url : String) (value : Message) : Message :=
  text 1 url ++ if value.isEmpty then [] else [.bytes 2 value.encode]

/-- A span of time. -/
def duration (d : Duration) : Message := number 1 (d.seconds % Nat.pow 2 64) ++ number 2 d.subsecond

/-- The source of resources that arrive on the same stream, in the third version of the API. -/
def streamSource : Message := message 3 [] ++ number 6 2

/-- The address of a socket. -/
def socketAddress (host : String) (port : Nat) : Message :=
  message 1 (text 2 host ++ numberAlways 3 port)

/-- A named extension with its settings. -/
def extension (name url : String) (value : Message) : Message :=
  text 1 name ++ message 2 (typed url value)

/-- TLS on a connection, with its settings. -/
def tlsSocket (url : String) (value : Message) : Message :=
  text 1 "envoy.transport_sockets.tls" ++ message 3 (typed url value)

end ControlPlane.Wire
