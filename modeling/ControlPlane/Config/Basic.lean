import ControlPlane.Compile.Basic
import ControlPlane.Gateway.Aggregate

/-! The configuration of the control plane, its defaults, and what is wrong with one. -/

namespace ControlPlane

/-- The files of a certificate, its private key, and the authority that clients must show. -/
structure TlsFiles where
  certificate : String
  key : String
  clientAuthority : Option String := none
deriving DecidableEq, Repr

/-- The discovery server. -/
structure DiscoverySettings where
  bindAddress : String := "0.0.0.0"
  port : Nat := 18000
  /-- How many seconds a stream waits for the answer to a response. -/
  ackTimeout : Nat := 30
  tls : Option TlsFiles := none
deriving DecidableEq, Repr

/-- The administrative server. -/
structure AdminSettings where
  bindAddress : String := "0.0.0.0"
  port : Nat := 9843
  username : String := ""
  password : String := ""
  /-- The greatest size of an upload in bytes. -/
  maxBundleBytes : Nat := 16777216
  /-- The greatest size of the documents in an upload, unpacked. -/
  maxExtractedBytes : Nat := 67108864
  tls : Option TlsFiles := none
deriving DecidableEq, Repr

/-- The proxies' listener, and what holds where APIs declare nothing. -/
structure RouterSettings where
  listenerAddress : String := "0.0.0.0"
  listenerPort : Nat := 9090
  listenerTls : Option TlsFiles := none
  /-- In seconds. -/
  connectTimeout : Nat := 5
  /-- In seconds. -/
  routeTimeout : Nat := 60
deriving DecidableEq, Repr

/-- Where the logging document is. -/
structure LogSettings where
  path : String := "config/log_config.toml"
deriving DecidableEq, Repr

/-- The whole configuration. -/
structure Config where
  discovery : DiscoverySettings := {}
  admin : AdminSettings := {}
  router : RouterSettings := {}
  log : LogSettings := {}
deriving DecidableEq, Repr

/-- A host and a port in one text. -/
def hostAndPort (host : String) (port : Nat) : String := host ++ ":" ++ Json.Literal.natText port

/-- Where the discovery server listens. -/
def DiscoverySettings.address (settings : DiscoverySettings) : String :=
  hostAndPort settings.bindAddress settings.port

/-- Where the administrative server listens. -/
def AdminSettings.address (settings : AdminSettings) : String :=
  hostAndPort settings.bindAddress settings.port

namespace RouterSettings

/-- The listener of the proxies. -/
def listener (settings : RouterSettings) : ListenerSettings :=
  { name := defaultListener
    address := settings.listenerAddress
    port := settings.listenerPort
    tls := settings.listenerTls.map fun files => ⟨files.certificate, files.key⟩ }

/-- The timeouts of what is compiled. -/
def compileOptions (settings : RouterSettings) : CompileOptions :=
  ⟨.ofSeconds settings.routeTimeout, .ofSeconds settings.connectTimeout⟩

end RouterSettings

namespace Config

/-- A problem at a place unless a condition holds. -/
def check (holds : Bool) (place problem : String) : List String :=
  if holds then [] else [place ++ ": " ++ problem]

/-- Whether a number lies between two others. -/
def within (low high n : Nat) : Bool := low ≤ n && n ≤ high

/-- The values that are out of range, section by section and by field within a section. -/
def problems (config : Config) : List String :=
  let port := "Port must be between 1 and 65535"
  check (!config.admin.bindAddress.isEmpty) "admin.bind_address"
      "Admin bind address cannot be empty" ++
    check (1024 ≤ config.admin.maxBundleBytes) "admin.max_bundle_bytes"
      "Max bundle size must be at least 1KB" ++
    check (1024 ≤ config.admin.maxExtractedBytes) "admin.max_extracted_bytes"
      "Max extracted size must be at least 1KB" ++
    check (within 1 65535 config.admin.port) "admin.port" port ++
    check (within 1 60 config.router.connectTimeout) "router.connect_timeout_seconds"
      "Connect timeout must be between 1 and 60 seconds" ++
    check (within 1 3600 config.router.routeTimeout) "router.default_route_timeout_seconds"
      "Route timeout must be between 1 and 3600 seconds" ++
    check (!config.router.listenerAddress.isEmpty) "router.listener_address"
      "Listener address cannot be empty" ++
    check (within 1 65535 config.router.listenerPort) "router.listener_port" port ++
    check (within 1 600 config.discovery.ackTimeout) "xds.ack_timeout_seconds"
      "ACK timeout must be between 1 and 600 seconds" ++
    check (!config.discovery.bindAddress.isEmpty) "xds.bind_address"
      "xDS bind address cannot be empty" ++
    check (within 1 65535 config.discovery.port) "xds.port" port

/-- Accepts a configuration: its values are in range, the servers are apart, and the
administrator has a name and a password. -/
def validate (config : Config) : Except Error Unit :=
  if !config.problems.isEmpty then .error (.misconfigured config.problems)
  else if config.discovery.port = config.admin.port ∧
      config.discovery.bindAddress = config.admin.bindAddress then
    .error (.bootstrap "xDS and admin servers cannot share the same address" false)
  else if (Text.trim config.admin.username).isEmpty ∨ config.admin.password.isEmpty then
    .error (.bootstrap "admin credentials must be configured" false)
  else .ok ()

end Config

end ControlPlane
