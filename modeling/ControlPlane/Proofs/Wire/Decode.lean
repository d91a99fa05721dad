import ControlPlane.Discovery.Snapshot
import ControlPlane.Proofs.Wire.Message

/-! Resources are read back from their wire form, so that nothing is lost on the way to proxies. -/

namespace ControlPlane

/-- Whether resources can be told to proxies: the endpoints are those of the clusters, only clusters
with TLS have a server name, which is not empty, and the seconds of all spans of time are counted in
64 bits. -/
structure ResourceSet.Tellable (set : ResourceSet) : Prop where
  assignments : set.assignments = set.clusters.map Cluster.assignment
  secured : ∀ c ∈ set.clusters, c.tls = false → c.sni = none
  named : ∀ c ∈ set.clusters, c.sni ≠ some ""
  connectTimeouts : ∀ c ∈ set.clusters, c.connectTimeout.seconds < Nat.pow 2 64
  timeouts : ∀ table ∈ set.routeTables, ∀ r ∈ table.host.routes, r.timeout.seconds < Nat.pow 2 64

namespace Wire

open Proto

/-- A span of time as it is read. -/
def readDuration (m : Message) : Duration := ⟨m.numberAt 1 * 1000000000 + m.numberAt 2⟩

/-- The settings of a message of any type. -/
def readTyped (m : Message) : Message := m.inner 2

/-- The host and the port of a socket as they are read. -/
def readSocket (m : Message) : String × Nat := ((m.inner 1).textAt 2, (m.inner 1).numberAt 3)

/-- An endpoint as it is read. -/
def readEndpoint (m : Message) : Address :=
  let (host, port) := readSocket ((m.inner 1).inner 1)
  ⟨host, port⟩

/-- The endpoints of a cluster as they are read. -/
def readAssignment (m : Message) : Assignment :=
  ⟨m.textAt 1, ((m.inner 2).innersAt 2).map readEndpoint⟩

/-- A cluster as it is read, next to the endpoints that are found by discovery. -/
def readCluster (m : Message) (found : Assignment) : Cluster where
  name := m.textAt 1
  endpoints :=
    if m.numberAt 2 = Resolution.discovery.code then found.endpoints
    else (readAssignment (m.inner 33)).endpoints
  tls := (m.inner? 24).isSome
  sni := (m.inner? 24).bind fun socket => (readTyped (socket.inner 3)).text? 2
  connectTimeout := readDuration (m.inner 4)

/-- The verb with a name. -/
def readMethod (text : String) : Method := (Method.all.find? (·.text = text)).getD .get

/-- A route as it is read. -/
def readRoute (m : Message) : Route where
  name := m.textAt 14
  pathTemplate := (readTyped (((m.inner 1).inner 15).inner 2)).textAt 1
  method := readMethod ((((m.inner 1).inner 6).inner 13).textAt 1)
  cluster := (m.inner 2).textAt 1
  timeout := readDuration ((m.inner 2).inner 8)
  backendHost := (m.inner 2).text? 6
  backendTemplate := ((m.inner 2).inner? 41).map fun policy => (readTyped (policy.inner 2)).textAt 1

/-- A route table as it is read. -/
def readRouteTable (m : Message) : RouteTable where
  name := m.textAt 1
  host := ⟨(m.inner 2).textAt 1, (m.inner 2).textsAt 2, ((m.inner 2).innersAt 3).map readRoute⟩

/-- The TLS material of a listener as it is read. -/
def readTls (m : Message) : TlsPaths :=
  let certificate := ((readTyped (m.inner 3)).inner 1).inner 2
  ⟨(certificate.inner 1).textAt 1, (certificate.inner 2).textAt 1⟩

/-- A listener as it is read. -/
def readListener (m : Message) : Listener where
  name := m.textAt 1
  address := (readSocket (m.inner 2)).1
  port := (readSocket (m.inner 2)).2
  tls := ((m.inner 3).inner? 6).map readTls
  routeTable := ((readTyped (((m.inner 3).inner 3).inner 4)).inner 3).textAt 2

/-- Settings are read back, also if they have no fields and are left out. -/
@[simp] theorem readTyped_typed (url : String) (value : Message) :
    readTyped (typed url value) = value := by
  -- Settings without fields are left out, and read as having none.
  unfold typed
  by_cases empty : value.isEmpty = true
  · rw [if_pos empty]
    simp [readTyped, List.isEmpty_iff.mp empty]
  · -- Settings that have fields are a message inside another.
    rw [if_neg empty]
    have single : [Field.bytes 2 value.encode] = message 2 value := rfl
    simp [readTyped, single]

/-- A span of time is read back if its seconds are counted in 64 bits. -/
theorem readDuration_duration {d : Duration} (fits : d.seconds < Nat.pow 2 64) :
    readDuration (duration d) = d := by
  -- The count of seconds is written whole, and together with the rest it is the span.
  have whole : d.seconds % Nat.pow 2 64 = d.seconds := Nat.mod_eq_of_lt fits
  have parts : d.seconds * 1000000000 + d.subsecond = d.nanoseconds := Nat.div_add_mod' ..
  rw [duration, whole]
  simp [readDuration, parts]

/-- A socket is read back. -/
@[simp] theorem readSocket_socketAddress (host : String) (port : Nat) :
    readSocket (socketAddress host port) = (host, port) := by
  simp [readSocket, socketAddress]

/-- An endpoint is read back. -/
@[simp] theorem readEndpoint_endpoint (address : Address) :
    readEndpoint (endpoint address) = address := by
  simp [readEndpoint, endpoint]

/-- The endpoints of a cluster are read back. -/
@[simp] theorem readAssignment_assignment (a : Assignment) : readAssignment (assignment a) = a := by
  simp [readAssignment, assignment, Function.comp_def]

/-- The server name for TLS is read back, if it is not the empty text. -/
theorem text?_clusterTls {sni : Option String} (named : sni ≠ some "") :
    (readTyped ((clusterTls sni).inner 3)).text? 2 = sni := by
  -- Without a name there is nothing under its number; an empty name would not be written either.
  cases sni with
  | none => simp [clusterTls, tlsSocket]
  | some name =>
    have some : name ≠ "" := fun empty => named (congrArg _ empty)
    simp [clusterTls, tlsSocket, some]

/-- The number of a way of resolution tells whether it is discovery. -/
theorem code_eq_iff (way : Resolution) :
    way.code = Resolution.discovery.code ↔ way = .discovery := by
  -- The ways of resolution have different numbers.
  cases way <;> decide

/-- What a proxy reads of a cluster, part by part. -/
theorem parts_cluster (c : Cluster) :
    (cluster c).textAt 1 = c.name ∧ (cluster c).numberAt 2 = (resolution c).code ∧
    (cluster c).inner 4 = duration c.connectTimeout ∧
    (cluster c).inner? 24 = (if c.tls then some (clusterTls c.sni) else none) ∧
    (resolution c ≠ .discovery → (cluster c).inner 33 = assignment c.assignment) := by
  -- Two parts may be missing, and every part has a number of its own.
  unfold cluster
  by_cases discovered : resolution c = .discovery <;> by_cases tls : c.tls = true <;>
    simp [discovered, tls]

/-- A cluster is read back next to its endpoints, if a server name that it has is not empty and is
for TLS, and if its span of time can be told. -/
theorem readCluster_cluster {c : Cluster} (named : c.sni ≠ some "")
    (secured : c.tls = false → c.sni = none) (fits : c.connectTimeout.seconds < Nat.pow 2 64) :
    readCluster (cluster c) c.assignment = c := by
  -- Every part is read under its own number.
  obtain ⟨name, way, timeout, socket, inside⟩ := parts_cluster c
  -- The endpoints are read next to the cluster if it leaves them to discovery, else inside it.
  have endpoints : (if (resolution c).code = Resolution.discovery.code then c.assignment.endpoints
      else (readAssignment ((cluster c).inner 33)).endpoints) = c.endpoints := by
    by_cases discovered : resolution c = .discovery
    · rw [if_pos ((code_eq_iff _).mpr discovered)]
      rfl
    · rw [if_neg fun same => discovered ((code_eq_iff _).mp same), inside discovered,
        readAssignment_assignment]
      rfl
  -- Whether there is TLS is told by whether there is a socket for it.
  have tls : ((if c.tls then some (clusterTls c.sni) else none) : Option Message).isSome =
      c.tls := by
    cases c.tls <;> rfl
  -- A cluster without TLS has no socket to read a server name from.
  have sni : ((if c.tls then some (clusterTls c.sni) else none) : Option Message).bind
      (fun socket => (readTyped (socket.inner 3)).text? 2) = c.sni := by
    cases secure : c.tls with
    | false => exact (secured secure).symm
    | true => exact text?_clusterTls named
  unfold readCluster
  rw [name, way, timeout, socket, endpoints, tls, sni, readDuration_duration fits]

/-- A verb is read back from its name. -/
@[simp] theorem readMethod_text (method : Method) : readMethod method.text = method := by
  -- No two verbs have one name.
  cases method <;> rfl

/-- What a proxy reads of the action of a route, part by part. -/
theorem parts_routeAction (r : Route) :
    (routeAction r).textAt 1 = r.cluster ∧ (routeAction r).text? 6 = r.backendHost ∧
    (routeAction r).inner 8 = duration r.timeout ∧
    ((routeAction r).inner? 41).map (fun policy => (readTyped (policy.inner 2)).textAt 1) =
      r.backendTemplate := by
  -- The host and the template may both be missing.
  unfold routeAction
  cases host : r.backendHost <;> cases template : r.backendTemplate <;> simp [extension]

/-- A route is read back, if its span of time can be told. -/
theorem readRoute_route {r : Route} (fits : r.timeout.seconds < Nat.pow 2 64) :
    readRoute (route r) = r := by
  -- The action, the match and the name have a number each, and so have the parts of the first two.
  obtain ⟨cluster, host, timeout, template⟩ := parts_routeAction r
  have action : (route r).inner 2 = routeAction r := by simp [route]
  have taken : (route r).inner 1 = routeMatch r := by simp [route]
  have name : (route r).textAt 14 = r.name := by simp [route]
  have path : (readTyped (((routeMatch r).inner 15).inner 2)).textAt 1 = r.pathTemplate := by
    simp [routeMatch, extension]
  have method : readMethod ((((routeMatch r).inner 6).inner 13).textAt 1) = r.method := by
    simp [routeMatch]
  unfold readRoute
  rw [action, taken, name, path, method, cluster, host, timeout, template,
    readDuration_duration fits]

/-- A route table is read back, if the spans of time of its routes can be told. -/
theorem readRouteTable_routeTable {table : RouteTable}
    (fits : ∀ r ∈ table.host.routes, r.timeout.seconds < Nat.pow 2 64) :
    readRouteTable (routeTable table) = table := by
  -- Each route is read back by itself.
  have routes : table.host.routes.map (readRoute ∘ route) = table.host.routes.map id :=
    List.map_congr_left fun r member => readRoute_route (fits r member)
  simp [readRouteTable, routeTable, routes]

/-- The TLS material of a listener is read back. -/
@[simp] theorem readTls_listenerTls (paths : TlsPaths) : readTls (listenerTls paths) = paths := by
  simp [readTls, listenerTls, tlsSocket, file]

/-- A listener is read back. -/
@[simp] theorem readListener_listener (l : Listener) : readListener (listener l) = l := by
  -- Only the TLS material may be missing.
  obtain ⟨name, address, port, tls, routeTable⟩ := l
  cases tls <;> simp [listener, readListener, connectionManager]

/-- The resources as they are read from the written forms of those of each kind. Clusters and their
endpoints are in the same order. -/
def decode (written : ResourceKind → List (List UInt8)) : ResourceSet :=
  let read (kind : ResourceKind) : List Message := (written kind).map messageOf
  let assignments := (read .endpoint).map readAssignment
  { listeners := (read .listener).map readListener
    routeTables := (read .route).map readRouteTable
    clusters := (read .cluster).zipWith readCluster assignments
    assignments }

/-- Whoever asks for no names gets all resources. -/
theorem filter_wanted_nil {α : Type} (kind : ResourceKind) (nameOf : α → String) (items : List α) :
    (items.filter fun item => wanted kind [] (nameOf item)) = items :=
  -- No name is asked for, so each resource is wanted.
  List.filter_eq_self.mpr fun item _ => by simp [wanted]

variable {set : ResourceSet}

/-- Clusters are read back next to their endpoints. -/
theorem readClusters (tellable : set.Tellable) :
    (set.clusters.map cluster).zipWith readCluster set.assignments = set.clusters := by
  -- The endpoints in the set are those of its clusters, so each cluster is read next to its own.
  rw [tellable.assignments, List.zipWith_map, List.zipWith_self]
  have each : set.clusters.map (fun c => readCluster (cluster c) c.assignment) =
      set.clusters.map id := List.map_congr_left fun c member =>
    readCluster_cluster (tellable.named c member) (tellable.secured c member)
      (tellable.connectTimeouts c member)
  rw [each, List.map_id]

/-- Resources are read back from what is written of them. -/
theorem decode_encode (tellable : set.Tellable) :
    decode (fun kind => encode kind [] set) = set := by
  -- Resources of each kind are read back by themselves, those of clusters next to their endpoints.
  have tables : set.routeTables.map (readRouteTable ∘ routeTable) = set.routeTables.map id :=
    List.map_congr_left fun table member =>
      readRouteTable_routeTable (tellable.timeouts table member)
  have listeners : set.listeners.map (readListener ∘ listener) = set.listeners.map id :=
    List.map_congr_left fun l _ => readListener_listener l
  have assignments : set.assignments.map (readAssignment ∘ assignment) = set.assignments.map id :=
    List.map_congr_left fun a _ => readAssignment_assignment a
  have read : ∀ forms : List Message, (forms.map Message.encode).map messageOf = forms := by
    intro forms
    simp [Function.comp_def]
  -- The messages are read first, and then what they say.
  simp only [decode, encode, messages, filter_wanted_nil, read]
  simp only [List.map_map, listeners, tables, assignments, List.map_id, readClusters tellable]

/-- Nothing is lost on the way to proxies: listeners, route tables, clusters and endpoints are read
back from their written forms, so resources with the same written forms are the same. -/
theorem written_determine_resources {set other : ResourceSet} (tellable : set.Tellable)
    (alike : other.Tellable) :
    decode (fun kind => encode kind [] set) = set ∧
      ((∀ kind, encode kind [] set = encode kind [] other) → set = other) := by
  -- What is written determines the set, as it can be read back from it.
  refine ⟨decode_encode tellable, fun same => ?_⟩
  calc set = decode (fun kind => encode kind [] set) := (decode_encode tellable).symm
    _ = decode (fun kind => encode kind [] other) := congrArg decode (funext same)
    _ = other := decode_encode alike

/-- Resources with a pool of addresses and a host behind TLS, which both have routes. -/
def mixedPools (port : Nat) : ResourceSet :=
  let pool : Cluster :=
    ⟨"pool", [⟨"10.0.0.1", port⟩, ⟨"10.0.0.2", 8080⟩], false, none, .ofSeconds 5⟩
  let host : Cluster :=
    ⟨"host", [⟨"pets.example.com", 443⟩], true, some "pets.example.com", ⟨1500000000⟩⟩
  { listeners := [⟨"default", "0.0.0.0", 9090, some ⟨"tls.crt", "tls.key"⟩, "default"⟩]
    routeTables := [.ofRoutes
      [⟨"pets", "/pets/\x7bid\x7d", .get, "pool", .ofSeconds 20, none, none⟩,
        ⟨"toys", "/toys", .post, "host", .ofSeconds 20, some "pets.example.com", some "/"⟩]]
    clusters := [pool, host]
    assignments := [pool.assignment, host.assignment] }

/-- The resources can be told, and those with another port have other written forms. -/
theorem written_determine_resources_mixedPools :
    (mixedPools 8080).Tellable ∧
      decode (fun kind => encode kind [] (mixedPools 8080)) = mixedPools 8080 ∧
      ¬ ∀ kind, encode kind [] (mixedPools 8080) = encode kind [] (mixedPools 9090) := by
  -- Each condition is about the few resources that there are.
  have tellable : ∀ port, (mixedPools port).Tellable := fun port => by
    constructor
    · rfl
    · simp [mixedPools]
    · simp [mixedPools]
    · simp [mixedPools, Duration.seconds, Duration.ofSeconds]
    · simp [mixedPools, RouteTable.ofRoutes, Duration.seconds, Duration.ofSeconds]
  obtain ⟨read, determined⟩ := written_determine_resources (tellable 8080) (tellable 9090)
  -- The two sets differ in a port, so what is written of them differs too.
  refine ⟨tellable 8080, read, fun same => ?_⟩
  exact absurd (determined same) (by decide)

end Wire

end ControlPlane
