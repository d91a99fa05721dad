import ControlPlane.Discovery.Kind
import ControlPlane.Label
import ControlPlane.Wire.Cluster
import ControlPlane.Wire.Listener
import ControlPlane.Wire.Route

/-! Snapshots: what one label's proxies are configured with at one version. -/

namespace ControlPlane

/-- The resources of a label. -/
structure ResourceSet where
  listeners : List Listener := []
  routeTables : List RouteTable := []
  clusters : List Cluster := []
  assignments : List Assignment := []
deriving DecidableEq, Repr

namespace ResourceSet

/-- No resources. -/
def empty : ResourceSet := {}

/-- The number of routes in all tables. -/
def routeCount (set : ResourceSet) : Nat :=
  set.routeTables.foldl (fun count table => count + table.host.routes.length) 0

end ResourceSet

/-- The resources of a label at a version. -/
structure Snapshot where
  label : Label
  /-- How often the label was published to. -/
  version : Nat
  resources : ResourceSet
deriving DecidableEq, Repr

namespace Snapshot

/-- What a label has before anything is published to it. -/
def initial (label : Label) : Snapshot := ⟨label, 0, .empty⟩

/-- The version as proxies see it. -/
def versionText (snapshot : Snapshot) : String := Json.Literal.natText snapshot.version

end Snapshot

namespace Wire

/-- Whether a subscriber with some names gets the resource with a name. -/
def wanted (kind : ResourceKind) (names : List String) (name : String) : Bool :=
  kind.isWildcard || names.isEmpty || names.contains name

/-- The messages of the resources of a kind that a subscriber with some names gets. -/
def messages (kind : ResourceKind) (names : List String) (set : ResourceSet) :
    List Proto.Message :=
  match kind with
  | .listener => (set.listeners.filter fun l => wanted kind names l.name).map listener
  | .route => (set.routeTables.filter fun t => wanted kind names t.name).map routeTable
  | .cluster => (set.clusters.filter fun c => wanted kind names c.name).map cluster
  | .endpoint => (set.assignments.filter fun a => wanted kind names a.cluster).map assignment

/-- The resources of a kind, as bytes, that a subscriber with some names gets. -/
def encode (kind : ResourceKind) (names : List String) (set : ResourceSet) :
    List (List UInt8) :=
  (messages kind names set).map Proto.Message.encode

end Wire

end ControlPlane
