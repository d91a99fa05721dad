import ControlPlane.Gateway.Failure
import ControlPlane.Wire.Shared

/-! The wire form of listeners, which answer failures by themselves. -/

namespace ControlPlane.Wire

open Proto

/-- A text in which a percent sign stands for itself. -/
def escapePercent (s : String) : String :=
  String.ofList (s.toList.flatMap fun c => if c = '%' then ['%', '%'] else [c])

/-- The answer to one failure: its status, and its body as JSON.

The form of a body is a choice that begins at field 1, so it goes before the content type. -/
def failureMapper (failure : BackendFailure) : Message :=
  message 1 (message 9 (textAlways 1 failure.flag)) ++
    message 2 (number 1 failure.status) ++
    message 4 (message 5 (textAlways 3 (escapePercent failure.body.render)) ++
      text 4 "application/json")

/-- The answers to all failures. -/
def localReplies : Message := BackendFailure.all.flatMap fun failure => message 1 (failureMapper failure)

/-- The filter that routes requests. -/
def routerFilter : Message :=
  text 1 "envoy.filters.http.router" ++
    message 4 (typed (typeUrl "envoy.extensions.filters.http.router.v3.Router") [])

/-- The handling of HTTP connections by a route table. -/
def connectionManager (routeTable : String) : Message :=
  text 2 "ingress_http" ++ message 3 (message 1 streamSource ++ text 2 routeTable) ++
    message 5 routerFilter ++ message 38 localReplies

/-- A file at the proxy. -/
def file (path : String) : Message := textAlways 1 path

/-- TLS towards clients. -/
def listenerTls (paths : TlsPaths) : Message :=
  tlsSocket (typeUrl "envoy.extensions.transport_sockets.tls.v3.DownstreamTlsContext")
    (message 1 (message 2 (message 1 (file paths.certificate) ++ message 2 (file paths.key))))

/-- A listener. -/
def listener (l : Listener) : Message :=
  text 1 l.name ++ message 2 (socketAddress l.address l.port) ++
    message 3 (message 3 (text 1 "envoy.filters.network.http_connection_manager" ++
        message 4 (typed
          (typeUrl ("envoy.extensions.filters.network.http_connection_manager.v3." ++
            "HttpConnectionManager"))
          (connectionManager l.routeTable))) ++
      match l.tls with
      | some paths => message 6 (listenerTls paths)
      | none => [])

end ControlPlane.Wire
