import ControlPlane.Api.Endpoint
import ControlPlane.Duration
import ControlPlane.Ordered.Set

/-! What a gateway proxy is configured with: listeners, routes, clusters and their endpoints. -/

namespace ControlPlane

/-- The name of the one route table that listeners use. -/
def defaultRouteTable : String := "default"

/-- The name of the one virtual host of a route table. -/
def defaultVirtualHost : String := "default"

/-- A route to a cluster. -/
structure Route where
  name : String
  /-- The template that request paths match. -/
  pathTemplate : String
  method : Method
  cluster : String
  timeout : Duration
  /-- The host that the backend is asked for. -/
  backendHost : Option String
  /-- The template of the path at the backend, where it differs from the one matched. -/
  backendTemplate : Option String
deriving DecidableEq, Repr

/-- The network address of a backend. -/
structure Address where
  host : String
  port : Nat
deriving DecidableEq, Repr

/-- Whether the host is written as an address rather than as a name. -/
def Address.isIp (address : Address) : Bool := Net.isAddress address.host

/-- The endpoints that serve one cluster. -/
structure Assignment where
  cluster : String
  endpoints : List Address
deriving DecidableEq, Repr

/-- A named pool of backends. -/
structure Cluster where
  name : String
  endpoints : List Address
  tls : Bool
  /-- The server name that TLS connections ask for. -/
  sni : Option String
  connectTimeout : Duration
deriving DecidableEq, Repr

namespace Cluster

/-- Whether a proxy learns the endpoints by discovery: there are some, and none needs resolving. -/
def usesDiscovery (cluster : Cluster) : Bool :=
  !cluster.endpoints.isEmpty && cluster.endpoints.all Address.isIp

/-- The endpoints of a cluster under its name. -/
def assignment (cluster : Cluster) : Assignment := ⟨cluster.name, cluster.endpoints⟩

end Cluster

/-- The paths of a certificate and its private key at the proxy. -/
structure TlsPaths where
  certificate : String
  key : String
deriving DecidableEq, Repr

/-- The point where requests enter a proxy. -/
structure Listener where
  name : String
  address : String
  port : Nat
  tls : Option TlsPaths
  routeTable : String
deriving DecidableEq, Repr

/-- The domains of a host and the routes it has. -/
structure VirtualHost where
  name : String
  domains : List String
  routes : List Route
deriving DecidableEq, Repr

/-- A route table with one virtual host. -/
structure RouteTable where
  name : String
  host : VirtualHost
deriving DecidableEq, Repr

namespace RouteTable

/-- The table of some routes for every domain. -/
def ofRoutes (routes : List Route) : RouteTable :=
  ⟨defaultRouteTable, ⟨defaultVirtualHost, ["*"], routes⟩⟩

/-- A table with other routes; none of its own stays. -/
def replace (table : RouteTable) (routes : List Route) : RouteTable :=
  { table with host := { table.host with routes } }

/-- The names of the clusters that routes lead to. -/
def clusters (table : RouteTable) : OrderedSet String := .ofList (table.host.routes.map Route.cluster)

end RouteTable

end ControlPlane
