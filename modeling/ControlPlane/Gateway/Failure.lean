import ControlPlane.Json.Printer

/-! Failures that a proxy reports for a request, and the answer that clients get for each. -/

namespace ControlPlane

/-- A failure between a proxy and its backends. -/
inductive BackendFailure where
  | noRoute | connectionFailure | requestTimeout | remoteReset | connectionTermination | overflow
  | noHealthyBackend | retryLimitExceeded | noClusterFound | localReset | invalidHeaders
  | streamIdleTimeout | clientProtocolError | backendProtocolError | maxStreamDurationReached
deriving DecidableEq, Repr

namespace BackendFailure

/-- Every failure, in the order in which proxies are told about them. -/
def all : List BackendFailure :=
  [.noRoute, .connectionFailure, .requestTimeout, .remoteReset, .connectionTermination, .overflow,
    .noHealthyBackend, .retryLimitExceeded, .noClusterFound, .localReset, .invalidHeaders,
    .streamIdleTimeout, .clientProtocolError, .backendProtocolError, .maxStreamDurationReached]

/-- The flag by which proxies report a failure. -/
def flag : BackendFailure → String
  | noRoute => "NR"
  | connectionFailure => "UF"
  | requestTimeout => "UT"
  | remoteReset => "UR"
  | connectionTermination => "UC"
  | overflow => "UO"
  | noHealthyBackend => "UH"
  | retryLimitExceeded => "URX"
  | noClusterFound => "NC"
  | localReset => "LR"
  | invalidHeaders => "IH"
  | streamIdleTimeout => "SI"
  | clientProtocolError => "DPE"
  | backendProtocolError => "UPE"
  | maxStreamDurationReached => "UMSDR"

/-- The failure that a flag reports. -/
def ofFlag? (flag : String) : Option BackendFailure := all.find? (·.flag = flag)

/-- The HTTP status of the answer. -/
def status : BackendFailure → Nat
  | noRoute => 404
  | requestTimeout => 504
  | invalidHeaders => 400
  | connectionFailure | remoteReset | connectionTermination | overflow | noHealthyBackend
  | localReset => 503
  | retryLimitExceeded | noClusterFound | streamIdleTimeout | clientProtocolError
  | backendProtocolError | maxStreamDurationReached => 500

/-- The error code in the answer, by which clients tell failures apart. -/
def code : BackendFailure → Nat
  | noRoute => 102404
  | connectionFailure => 102503
  | requestTimeout => 102504
  | remoteReset => 102505
  | connectionTermination => 102506
  | overflow => 102507
  | noHealthyBackend => 102508
  | retryLimitExceeded => 102509
  | noClusterFound => 102510
  | localReset => 102511
  | invalidHeaders => 102400
  | streamIdleTimeout => 102512
  | clientProtocolError => 102513
  | backendProtocolError => 102514
  | maxStreamDurationReached => 102515

/-- The short message in the answer. -/
def message : BackendFailure → String
  | noRoute => "Resource not found"
  | connectionFailure => "Upstream connection failed"
  | requestTimeout => "Upstream request timeout"
  | remoteReset => "Upstream remote reset"
  | connectionTermination => "Upstream connection terminated"
  | overflow => "Upstream overflow"
  | noHealthyBackend => "No healthy upstream"
  | retryLimitExceeded => "Upstream retry limit exceeded"
  | noClusterFound => "No cluster found"
  | localReset => "Local reset"
  | invalidHeaders => "Invalid request headers"
  | streamIdleTimeout => "Stream idle timeout"
  | clientProtocolError => "Downstream protocol error"
  | backendProtocolError => "Upstream protocol error"
  | maxStreamDurationReached => "Max stream duration reached"

/-- The sentence in the answer that says what happened. -/
def description : BackendFailure → String
  | noRoute => "No matching route was found for the request"
  | connectionFailure => "The gateway could not open a connection to the backend"
  | requestTimeout => "The backend did not respond within the route timeout"
  | remoteReset => "The backend reset the connection"
  | connectionTermination =>
    "The backend connection was terminated before a response was received"
  | overflow => "The request was rejected by the backend circuit breaker"
  | noHealthyBackend => "No healthy backend host is available"
  | retryLimitExceeded => "The retry budget for the backend was exhausted"
  | noClusterFound => "The target backend cluster is not configured"
  | localReset => "The gateway reset the connection locally"
  | invalidHeaders => "The request carried headers the gateway does not accept"
  | streamIdleTimeout => "The request stream was idle for too long"
  | clientProtocolError => "The client sent a request that violates the HTTP protocol"
  | backendProtocolError => "The backend sent a response that violates the HTTP protocol"
  | maxStreamDurationReached => "The request exceeded the maximum stream duration"

/-- The body of the answer. -/
def body (failure : BackendFailure) : Json :=
  .obj [("code", .num (.int failure.code)), ("message", .str failure.message),
    ("description", .str failure.description)]

end BackendFailure

end ControlPlane
