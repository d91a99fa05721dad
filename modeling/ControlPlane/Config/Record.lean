import ControlPlane.Config.Basic

/-! Reading the configuration from values: sections are tables, or lists of their fields in order. -/

namespace ControlPlane.Config

/-- The ways in which a kind of values gives the parts of a configuration. -/
structure Source (α : Type) where
  /-- The values of the named fields of a section. -/
  fields : List String → α → Option (String → Option α)
  text : α → Option String
  /-- A whole number of so many bits. -/
  count : Nat → α → Option Nat
  isNull : α → Bool

namespace Source

variable {α : Type} (source : Source α)

/-- The value of a field as it is read, or its default where the field is left out. -/
def orDefault {β : Type} (read : α → Option β) (default : β) : Option α → Option β
  | none => some default
  | some value => read value

/-- A value that may be null. -/
def maybe {β : Type} (read : α → Option β) (value : α) : Option (Option β) :=
  if source.isNull value then some none else (read value).map some

/-- The files of a certificate. -/
def tlsFiles (value : α) : Option TlsFiles := do
  let field ← source.fields ["cert_path", "key_path", "client_ca_path"] value
  return { certificate := ← (field "cert_path").bind source.text
           key := ← (field "key_path").bind source.text
           clientAuthority := ← orDefault (source.maybe source.text) none (field "client_ca_path") }

/-- The section of the discovery server. -/
def discovery (value : α) : Option DiscoverySettings := do
  let default : DiscoverySettings := {}
  let field ← source.fields ["bind_address", "port", "ack_timeout_seconds", "tls"] value
  return { bindAddress := ← orDefault source.text default.bindAddress (field "bind_address")
           port := ← orDefault (source.count 16) default.port (field "port")
           ackTimeout := ← orDefault (source.count 64) default.ackTimeout
             (field "ack_timeout_seconds")
           tls := ← orDefault (source.maybe source.tlsFiles) none (field "tls") }

/-- The section of the administrative server. -/
def admin (value : α) : Option AdminSettings := do
  let default : AdminSettings := {}
  let field ← source.fields ["bind_address", "port", "username", "password", "max_bundle_bytes",
    "max_extracted_bytes", "tls"] value
  return { bindAddress := ← orDefault source.text default.bindAddress (field "bind_address")
           port := ← orDefault (source.count 16) default.port (field "port")
           username := ← orDefault source.text default.username (field "username")
           password := ← orDefault source.text default.password (field "password")
           maxBundleBytes := ← orDefault (source.count 64) default.maxBundleBytes
             (field "max_bundle_bytes")
           maxExtractedBytes := ← orDefault (source.count 64) default.maxExtractedBytes
             (field "max_extracted_bytes")
           tls := ← orDefault (source.maybe source.tlsFiles) none (field "tls") }

/-- The section of the proxies. -/
def router (value : α) : Option RouterSettings := do
  let default : RouterSettings := {}
  let field ← source.fields ["listener_address", "listener_port", "listener_tls",
    "connect_timeout_seconds", "default_route_timeout_seconds"] value
  return { listenerAddress := ← orDefault source.text default.listenerAddress
             (field "listener_address")
           listenerPort := ← orDefault (source.count 16) default.listenerPort
             (field "listener_port")
           listenerTls := ← orDefault (source.maybe source.tlsFiles) none (field "listener_tls")
           connectTimeout := ← orDefault (source.count 64) default.connectTimeout
             (field "connect_timeout_seconds")
           routeTimeout := ← orDefault (source.count 64) default.routeTimeout
             (field "default_route_timeout_seconds") }

/-- The section of the log. -/
def log (value : α) : Option LogSettings := do
  let default : LogSettings := {}
  let field ← source.fields ["config_path"] value
  return { path := ← orDefault source.text default.path (field "config_path") }

/-- The whole configuration. -/
def config (value : α) : Option Config := do
  let field ← source.fields ["xds", "admin", "router", "logging"] value
  return { discovery := ← orDefault source.discovery {} (field "xds")
           admin := ← orDefault source.admin {} (field "admin")
           router := ← orDefault source.router {} (field "router")
           log := ← orDefault source.log {} (field "logging") }

end Source

/-- The item of a list at the position of a name. -/
def itemAt {α : Type} (names : List String) (items : List α) (name : String) : Option α :=
  Json.lookup name (names.zip items)

/-- Document values, which must have the right types and no fields in excess. -/
def jsonSource : Source Json where
  fields names value :=
    match value with
    | .obj fields => some (Json.lookup · fields)
    | .arr items => if items.length ≤ names.length then some (itemAt names items) else none
    | _ => none
  text := Json.text?
  count bits value := value.nat?.bind fun n => if n < Nat.pow 2 bits then some n else none
  isNull
    | .null => true
    | _ => false

/-- The configuration that a document value gives. -/
def ofJson? (value : Json) : Option Config := jsonSource.config value

end ControlPlane.Config
