import ControlPlane.Wire.Shared

/-! The wire form of clusters and of the endpoints that serve them. -/

namespace ControlPlane.Wire

open Proto

/-- An endpoint of an assignment. -/
def endpoint (address : Address) : Message :=
  message 1 (message 1 (socketAddress address.host address.port))

/-- The endpoints of a cluster, all in one locality. -/
def assignment (a : Assignment) : Message :=
  text 1 a.cluster ++ message 2 (a.endpoints.flatMap fun address => message 2 (endpoint address))

/-- How a proxy finds the endpoints of a cluster. -/
inductive Resolution where
  | strictDns | logicalDns | discovery
deriving DecidableEq, Repr

/-- The number of a way of resolution. -/
def Resolution.code : Resolution → Nat
  | .strictDns => 1
  | .logicalDns => 2
  | .discovery => 3

/-- How the endpoints of a cluster are found: addresses by discovery, and names by the proxy. -/
def resolution (c : Cluster) : Resolution :=
  if c.usesDiscovery then .discovery
  else if c.endpoints.length ≤ 1 then .logicalDns
  else .strictDns

/-- TLS towards the backends of a cluster. -/
def clusterTls (sni : Option String) : Message :=
  tlsSocket (typeUrl "envoy.extensions.transport_sockets.tls.v3.UpstreamTlsContext")
    (message 1 [] ++ text 2 (sni.getD ""))

/-- A cluster, with its endpoints unless they are found by discovery. -/
def cluster (c : Cluster) : Message :=
  let discovered := decide (resolution c = .discovery)
  text 1 c.name ++ numberAlways 2 (resolution c).code ++
    (if discovered then message 3 (message 1 streamSource) else []) ++
    message 4 (duration c.connectTimeout) ++
    (if c.tls then message 24 (clusterTls c.sni) else []) ++
    (if discovered then [] else message 33 (assignment c.assignment))

end ControlPlane.Wire
