import ControlPlane.Gateway.Resource

/-! The one listener of a label and the route table that it serves. -/

namespace ControlPlane

/-- The name of the one listener. -/
def defaultListener : String := "default"

/-- The name, address and TLS material of a listener. -/
structure ListenerSettings where
  name : String
  address : String
  port : Nat
  tls : Option TlsPaths
deriving DecidableEq, Repr

/-- The listener of some settings and the table of the routes of a whole label. -/
def aggregate (settings : ListenerSettings) (routes : List Route) : Listener × RouteTable :=
  (⟨settings.name, settings.address, settings.port, settings.tls, defaultRouteTable⟩,
    .ofRoutes routes)

end ControlPlane
