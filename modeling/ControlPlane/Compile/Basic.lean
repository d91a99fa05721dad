import ControlPlane.Compile.Naming
import ControlPlane.Gateway.Resource
import ControlPlane.Path

/-! Compiling the description of an API to routes and clusters. -/

namespace ControlPlane

/-- The timeouts of what is compiled. -/
structure CompileOptions where
  routeTimeout : Duration := .ofSeconds 60
  connectTimeout : Duration := .ofSeconds 5
deriving DecidableEq, Repr

/-- What an API compiles to. -/
structure Compiled where
  routes : List Route
  clusters : List Cluster
deriving DecidableEq, Repr

namespace Compiled

/-- The endpoints of the clusters, in their order. -/
def assignments (compiled : Compiled) : List Assignment := compiled.clusters.map Cluster.assignment

/-- Whether nothing was compiled. -/
def isEmpty (compiled : Compiled) : Bool := compiled.routes.isEmpty && compiled.clusters.isEmpty

end Compiled

namespace Compile

/-- Why an API does not compile. -/
inductive Fault where
  /-- The backends of a cluster disagree on TLS. -/
  | mixedTls (cluster : String)
  /-- A resource has no backends in any environment. -/
  | noBackends (api : ApiId) (method : Method) (path : String)
deriving DecidableEq, Repr

/-- The wording of a fault. -/
def Fault.message : Fault → String
  | .mixedTls cluster => "endpoints of cluster '" ++ cluster ++ "' mix plain and TLS backends"
  | .noBackends _ method path =>
    "resource " ++ method.text ++ " " ++ path ++ " has no backend endpoints and yields no route"

/-- A fault of compilation as a failure of the control plane. -/
def Fault.toError (fault : Fault) : Error :=
  match fault with
  | .mixedTls _ => .input fault.message
  | .noBackends api _ _ => .compilation api.text fault.message

/-- The template that the requests of a resource match. -/
def fullTemplate (api : Descriptor) (resource : Resource) : String :=
  Path.template (Path.join api.basePath (Path.relativeTo api.basePath resource.path))

/-- A resource with its template. -/
structure Templated where
  template : String
  resource : Resource
deriving DecidableEq, Repr

/-- Whether two resources answer the same requests. -/
def Templated.sameRequests (a b : Templated) : Bool :=
  a.template = b.template && a.resource.method = b.resource.method

/-- Adds a resource: in the place of one that answers the same requests, else at the end. -/
def declare (entry : Templated) : List Templated → List Templated
  | [] => [entry]
  | first :: rest =>
    if first.sameRequests entry then entry :: rest else first :: declare entry rest

/-- The resources that count: of those that answer the same requests, the last in the first's place. -/
def effective (api : Descriptor) : List Templated :=
  api.resources.foldl (fun entries resource => declare ⟨fullTemplate api resource, resource⟩ entries)
    []

/-- A cluster and the backends it was made of. -/
structure Pool where
  cluster : Cluster
  endpoints : List Endpoint
deriving DecidableEq, Repr

/-- The addresses of backends, each at its first place. -/
def addresses (endpoints : List Endpoint) : List Address :=
  endpoints.foldl (fun found endpoint =>
    let address : Address := ⟨endpoint.host, endpoint.port⟩
    if address ∈ found then found else found ++ [address]) []

/-- The cluster of some backends, which must agree on TLS. -/
def clusterOf (options : CompileOptions) (name : String) (endpoints : List Endpoint) :
    Except Fault Cluster :=
  let tls := (endpoints.head?.map Endpoint.tls).getD false
  if endpoints.any (·.tls != tls) then .error (.mixedTls name)
  else
    let addresses := addresses endpoints
    let sni := if tls then (addresses.find? (!·.isIp)).map Address.host else none
    .ok { name, endpoints := addresses, tls, sni, connectTimeout := options.connectTimeout }

/-- The name and backends of a resource's pool: its own backends, or else those of the API. -/
def poolSource (api : Descriptor) (entry : Templated) (environment : Environment) :
    Option (String × List Endpoint) :=
  let own := entry.resource.endpoints environment
  let shared := api.endpoints environment
  if !own.isEmpty then
    some (Naming.overrideCluster api.id environment entry.resource.method entry.template, own)
  else if !shared.isEmpty then some (Naming.cluster api.id environment, shared)
  else none

/-- The pool of a resource in one environment, if it has backends there. -/
def poolOf (options : CompileOptions) (api : Descriptor) (entry : Templated)
    (environment : Environment) : Except Fault (Option Pool) :=
  match poolSource api entry environment with
  | none => .ok none
  | some (name, endpoints) =>
    (clusterOf options name endpoints).map fun cluster => some ⟨cluster, endpoints⟩

/-- The route of a resource to a pool. -/
def routeOf (options : CompileOptions) (api : Descriptor) (entry : Templated) (target : Pool) :
    Route :=
  let primary := target.endpoints.head?
  let relative := Path.relativeTo api.basePath entry.resource.path
  let backendTemplate := Path.template (Path.join ((primary.map Endpoint.path).getD "") relative)
  { name := Naming.route api.id entry.resource.method entry.template
    pathTemplate := entry.template
    method := entry.resource.method
    cluster := target.cluster.name
    timeout := api.requestTimeout.getD options.routeTimeout
    backendHost := primary.map Endpoint.host
    backendTemplate := if backendTemplate = entry.template then none else some backendTemplate }

/-- Adds a cluster: in the place of one with its name, else at the end. -/
def addCluster (cluster : Cluster) : List Cluster → List Cluster
  | [] => [cluster]
  | first :: rest =>
    if first.name = cluster.name then cluster :: rest else first :: addCluster cluster rest

/-- The route and the pools of one resource. -/
def resourceOf (options : CompileOptions) (api : Descriptor) (entry : Templated) :
    Except Fault (Route × List Pool) := do
  let production ← poolOf options api entry .production
  let sandbox ← poolOf options api entry .sandbox
  match production.or sandbox with
  | some target => return (routeOf options api entry target, production.toList ++ sandbox.toList)
  | none => .error (.noBackends api.id entry.resource.method entry.resource.path)

/-- The compiled API with one more resource. -/
def addResource (options : CompileOptions) (api : Descriptor) (compiled : Compiled)
    (entry : Templated) : Except Fault Compiled := do
  let (route, pools) ← resourceOf options api entry
  return { routes := compiled.routes ++ [route]
           clusters := pools.foldl (fun clusters pool => addCluster pool.cluster clusters)
             compiled.clusters }

end Compile

/-- The routes and clusters of an API. -/
def compile (options : CompileOptions) (api : Descriptor) : Except Compile.Fault Compiled :=
  (Compile.effective api).foldlM (Compile.addResource options api) ⟨[], []⟩

end ControlPlane
