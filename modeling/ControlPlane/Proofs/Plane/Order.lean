import ControlPlane.Proofs.Deploy.Closure
import ControlPlane.Proofs.Plane.Delivery

/-! The order of responses: what a response refers to was sent before it, at the same version. -/

namespace ControlPlane

namespace Wire

/-- A subscriber to clusters gets every one of them, whatever names it asks for. -/
theorem mem_encode_cluster {names : List String} {set : ResourceSet} {c : Cluster}
    (member : c ∈ set.clusters) : (cluster c).encode ∈ encode .cluster names set := by
  -- Clusters are sent to everyone, so the filter lets each of them pass.
  unfold encode messages
  exact List.mem_map_of_mem (List.mem_map_of_mem (List.mem_filter.mpr ⟨member, rfl⟩))

/-- A subscriber to route tables gets those that it asks for. -/
theorem encode_route (names : List String) (set : ResourceSet) :
    encode .route names set =
      (set.routeTables.filter fun table => wanted .route names table.name).map
        fun table => (routeTable table).encode := by
  -- Each table that is wanted becomes a message, and each message bytes.
  unfold encode messages
  rw [List.map_map]
  rfl

end Wire

namespace Plane

/-- Whether a label and the streams that hold its snapshots have closed resources, and the registry
keeps it so. -/
structure Closed (plane : Plane) (label : Label) : Prop where
  filed : plane.deployer.registry.Filed plane.deployer.compileOptions
  cached : (plane.cache.current label).resources.Closed
  held : ∀ name connection stream, plane.connections.get? name = some connection →
    connection.phase = .serving stream → stream.current.label = label →
    stream.current.resources.Closed

/-- Before anything is published everything is closed. -/
theorem closed_idle (compileOptions : CompileOptions) (listener : ListenerSettings)
    (maxExtracted : Nat) (ackTimeout : Duration) (nonceOf : Nat → String) (label : Label) :
    (idle compileOptions listener maxExtracted ackTimeout nonceOf).Closed label where
  filed _ _ found := by cases found
  cached := ResourceSet.closed_empty
  held _ _ _ found := by cases found

/-- A stream that is given something of a closed label holds closed resources. -/
theorem Given.closed {plane : Plane} {name : String} {connection : Connection} {event : Event}
    {stream : Stream} {watcher : Option Watcher}
    (given : plane.Given name connection event stream watcher) {label : Label}
    (closed : plane.Closed label) (found : plane.connections.get? name = some connection)
    (here : stream.current.label = label) : stream.current.resources.Closed := by
  cases given with
  | opened waiting =>
    have labelled := (plane.cache.label_current _).symm.trans here
    subst labelled
    exact closed.cached
  | @requested _ stream serving => exact closed.held name connection stream found serving here
  | @overdue stream serving _ => exact closed.held name connection stream found serving here
  | woken serving watching news =>
    -- The stream is shown the current snapshot of the label that it watches.
    have labelled := (plane.cache.label_current _).symm.trans here
    subst labelled
    exact closed.cached

/-- A turn keeps a label closed unless someone else than the deployer publishes to it. -/
theorem Closed.turn {plane : Plane} {label : Label} (closed : plane.Closed label) {event : Event}
    (own : ∀ resources, event ≠ .published label resources) : (plane.turn event).Closed label := by
  -- The registry and the cache are considered first, and the streams after them.
  have deployed : (plane.turn event).deployer.registry.Filed
        (plane.turn event).deployer.compileOptions ∧
      ((plane.turn event).cache.current label).resources.Closed := by
    cases plane.published event with
    | command changed _ =>
      exact ⟨changed.filed closed.filed, changed.closed closed.filed closed.cached⟩
    | @foreign other resources _ published =>
      -- What someone else publishes goes to another label.
      rw [published]
      refine ⟨closed.filed, ?_⟩
      have apart : other ≠ label := fun same => own resources (by rw [same])
      have current := plane.cache.current_publish other label resources
      rw [if_neg apart] at current
      exact current ▸ closed.cached
    | nothing concerns =>
      -- Neither the registry nor a current snapshot changes.
      obtain ⟨cache, same⟩ := concerns.deployer
      rw [concerns.current, same]
      exact ⟨closed.filed, closed.cached⟩
  refine ⟨deployed.1, deployed.2, fun name connection stream found serving here => ?_⟩
  cases plane.turned event name with
  | untouched same =>
    exact closed.held name connection stream (same.1.symm.trans found) serving here
  | begun _ fresh =>
    cases fresh.symm.trans found
    cases serving
  | ended _ ends =>
    cases ends.symm.trans found
    cases serving
  | deafened _ waiting still =>
    cases still.symm.trans found
    exact absurd (waiting.symm.trans serving) (by simp)
  | served was given sent _ =>
    -- Sending leaves the snapshot that the stream was given.
    cases sent.symm.trans found
    cases serving
    rw [Stream.current_push] at here ⊢
    exact given.closed closed was here

/-- After any turns a label is closed to which only the deployer published. -/
theorem closed_turns (compileOptions : CompileOptions) (listener : ListenerSettings)
    (maxExtracted : Nat) (ackTimeout : Duration) (nonceOf : Nat → String) {events : List Event}
    {label : Label} (own : ∀ resources, .published label resources ∉ events) :
    ((idle compileOptions listener maxExtracted ackTimeout nonceOf).turns events).Closed label :=
  turns_induction (·.Closed label)
    (closed_idle compileOptions listener maxExtracted ackTimeout nonceOf label)
    fun _ member _ closed => closed.turn fun resources same => own resources (same ▸ member)

/-- Whenever a response is sent, in any run, the last response of every subscribed kind of smaller
rank was sent before it, of the same version and for the names on record. So where only the deployer
publishes to the label, every cluster that a route of the response leads to is among the resources
of the last response of clusters before it, if the stream is subscribed to them. -/
theorem dependencies_sent_before (compileOptions : CompileOptions) (listener : ListenerSettings)
    (maxExtracted : Nat) (ackTimeout : Duration) (nonceOf : Nat → String) (events : List Event)
    (event : Event) {name : String} {old new : Connection} {response : DiscoveryResponse}
    (was : ((idle compileOptions listener maxExtracted ackTimeout nonceOf).turns
      events).connections.get? name = some old)
    (found : (((idle compileOptions listener maxExtracted ackTimeout nonceOf).turns
      events).turn event).connections.get? name = some new)
    (sent : new.responses = old.responses ++ [response]) :
    ∃ stream, new.phase = .serving stream ∧
      response.version = stream.current.version ∧
      response.resources = Wire.encode response.kind
        (stream.session.of response.kind).names.items stream.current.resources ∧
      (∀ kind, kind.rank < response.kind.rank → (stream.session.of kind).subscribed = true →
        ∃ last, DiscoveryResponse.latest kind old.responses = some last ∧
          last.version = response.version ∧
          last.resources = Wire.encode kind (stream.session.of kind).names.items
            stream.current.resources) ∧
      (response.kind = .route → (stream.session.of .cluster).subscribed = true →
        (∀ resources, .published stream.current.label resources ∉ events) →
        ∃ last, DiscoveryResponse.latest .cluster old.responses = some last ∧
          response.resources = (stream.current.resources.routeTables.filter fun table =>
              Wire.wanted .route (stream.session.of .route).names.items table.name).map
            (fun table => (Wire.routeTable table).encode) ∧
          ∀ table ∈ stream.current.resources.routeTables, ∀ route ∈ table.host.routes,
            ∃ cluster ∈ stream.current.resources.clusters, cluster.name = route.cluster ∧
              (Wire.cluster cluster).encode ∈ last.resources) := by
  let before := (idle compileOptions listener maxExtracted ackTimeout nonceOf).turns events
  have orderly : before.Orderly :=
    orderly_turns compileOptions listener maxExtracted ackTimeout nonceOf events
  obtain ⟨given, watcher, stream, isGiven, pushed, serving⟩ :=
    (before.turned event name).sent was found sent
  obtain ⟨version, resources⟩ := Stream.built_of_push pushed
  have accounted := (isGiven.accounted orderly was).1
  -- The kinds of smaller rank are not queued when the response is sent, so they are up to date.
  have earlier : ∀ kind, kind.rank < response.kind.rank →
      (stream.session.of kind).subscribed = true → stream.UpToDate old.responses kind :=
    fun kind smaller subscribed => accounted.upToDate_of_push pushed smaller subscribed
  refine ⟨stream, serving, version, resources, fun kind smaller subscribed => ?_,
    fun routes subscribed own => ?_⟩
  · obtain ⟨last, latest, same, built⟩ := earlier kind smaller subscribed
    exact ⟨last, latest, same.trans version.symm, built⟩
  · obtain ⟨last, latest, _, built⟩ := earlier .cluster (by rw [routes]; decide) subscribed
    rw [routes, Wire.encode_route] at resources
    refine ⟨last, latest, resources, fun table tabled route listed => ?_⟩
    -- The route's cluster is there, and a subscriber gets every cluster that is there.
    have same : stream.current = given.current := by
      have kept := given.current_push (before.nonceOf old.responses.length) before.now
      rw [pushed] at kept
      exact kept
    have closed : stream.current.resources.Closed := by
      rw [same] at own ⊢
      exact isGiven.closed
        (closed_turns compileOptions listener maxExtracted ackTimeout nonceOf own) was rfl
    obtain ⟨cluster, inside, named⟩ := closed table tabled route listed
    exact ⟨cluster, inside, named, by rw [built]; exact Wire.mem_encode_cluster inside⟩

/-- An API is deployed, and a subscriber to clusters and routes was sent the clusters. -/
def subscribed : List Event :=
  [.command (.deploy {} "admin" [.petStore]), .opened "edge",
    .request "edge" ⟨ResourceKind.cluster.typeUrl, "", [], none, none⟩,
    .request "edge" ⟨ResourceKind.route.typeUrl, "", ["default"], none, none⟩]

/-- What a connection is served from, and whether it subscribes to clusters. -/
def servedFrom (connection : Connection) : Option (Snapshot × Bool) :=
  match connection.phase with
  | .serving stream => some (stream.current, (stream.session.of .cluster).subscribed)
  | _ => none

/-- When the clusters are accepted the routes are sent, and the cluster of the API was in the
response before. -/
theorem dependencies_sent_before_routes :
    let before := (idle {} ⟨"default", "0.0.0.0", 9090, none⟩ 0 (.ofSeconds 30) countedNonce).turns
      subscribed
    ∃ old new response last cluster, before.connections.get? "edge" = some old ∧
      (before.turn (.request "edge" ⟨ResourceKind.cluster.typeUrl, "n1", [], none,
        none⟩)).connections.get? "edge" = some new ∧
      new.responses = old.responses ++ [response] ∧ response.kind = .route ∧
      DiscoveryResponse.latest .cluster old.responses = some last ∧
      cluster.name = "cluster_production_pets_v1_get_45aa7f5a" ∧
      (Wire.cluster cluster).encode ∈ last.resources := by
  intro before
  let event : Event := .request "edge" ⟨ResourceKind.cluster.typeUrl, "n1", [], none, none⟩
  let snapshot := before.cache.current .default
  let response : DiscoveryResponse :=
    ⟨.route, 1, "n2", Wire.encode .route ["default"] snapshot.resources⟩
  -- What is sent is computed, and what the stream holds then.
  have had : (before.connections.get? "edge").isSome = true := by decide +kernel
  have has : ((before.turn event).connections.get? "edge").map servedFrom =
      some (some (snapshot, true)) := by decide +kernel
  have sent : ((before.turn event).connections.get? "edge").map Connection.responses =
      (before.connections.get? "edge").map fun old => old.responses ++ [response] := by
    decide +kernel
  obtain ⟨old, was⟩ := Option.isSome_iff_exists.mp had
  obtain ⟨new, found, holds⟩ := Option.map_eq_some_iff.mp has
  rw [was, found] at sent
  have added := Option.some.inj sent
  obtain ⟨stream, serving, _, _, _, closed⟩ := dependencies_sent_before {}
    ⟨"default", "0.0.0.0", 9090, none⟩ 0 (.ofSeconds 30) countedNonce subscribed event was found
    added
  simp only [servedFrom, serving, Option.some.injEq, Prod.mk.injEq] at holds
  obtain ⟨last, latest, _, clusters⟩ := closed rfl holds.2 (by simp [subscribed])
  -- The only route leads to the cluster of the operation.
  have leads : ∃ table ∈ snapshot.resources.routeTables, ∃ route ∈ table.host.routes,
      route.cluster = "cluster_production_pets_v1_get_45aa7f5a" := by decide +kernel
  obtain ⟨table, tabled, route, listed, target⟩ := leads
  obtain ⟨cluster, _, named, inside⟩ :=
    clusters table (by rw [holds.1]; exact tabled) route listed
  exact ⟨old, new, response, last, cluster, was, found, added, rfl, latest, named.trans target,
    inside⟩

end Plane

end ControlPlane
