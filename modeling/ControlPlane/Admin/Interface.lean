import ControlPlane.Admin.Credentials
import ControlPlane.Admin.Reply
import ControlPlane.Deploy.Listing
import ControlPlane.Http.Multipart
import ControlPlane.Http.Request

/-! The administrative interface: which requests are permitted, and what they do.

Whether a request is permitted depends on the request alone, never on what is deployed. -/

namespace ControlPlane.Admin

open Http (Query Request)

/-- The administrator, and the greatest size of an upload in bytes. -/
structure Interface where
  administrator : Administrator
  maxUpload : Nat

/-- What the interface has at its paths. -/
inductive Place where
  | health
  | apis
deriving DecidableEq, Repr

namespace Place

/-- The place of a path. -/
def ofPath? : String → Option Place
  | "/health" => some .health
  | "/apis" => some .apis
  | _ => none

/-- The methods of a place. -/
def methods : Place → List String
  | .health => ["GET", "HEAD"]
  | .apis => ["GET", "HEAD", "POST", "DELETE"]

/-- A reply that names the methods of a place unless the given one is among them. -/
def advise (place : Place) (method : String) (reply : Reply) : Reply :=
  if place.methods.contains method then reply
  else { reply with allow := some (String.intercalate "," place.methods) }

end Place

/-- What may be done with APIs. -/
inductive Action where
  | list
  | upload
  | delete
deriving DecidableEq, Repr

/-- The action of a method. -/
def Action.ofMethod? : String → Option Action
  | "GET" | "HEAD" => some .list
  | "POST" => some .upload
  | "DELETE" => some .delete
  | _ => none

/-- The version that the interface reports. -/
def version : String := "0.1.0"

/-- The answer to the question whether the program is well. -/
def healthReply : Reply := .json 200 (.obj [("status", .str "ok"), ("version", .str version)])

/-- The problem of a query that cannot be read. The text after the colon stands for whatever the
reader of queries says about its field: that wording is not modelled. -/
def badQuery : Problem :=
  .badRequest "Failed to deserialize query string: a field is malformed or given twice"

namespace Interface

/-- The refusal of a sender who is not the administrator. -/
def challenge (description : String) : Reply :=
  { (Problem.unauthorized description).reply with challenge := some "Basic realm=\"flowgate\"" }

/-- The name of the administrator, if the request comes from there. -/
def authenticate (interface : Interface) (request : Request) : Except Reply String :=
  match request.authorization.bind Credentials.ofHeader? with
  | none => .error (challenge "missing basic authentication credentials")
  | some credentials =>
    if interface.administrator.accepts credentials then .ok credentials.user
    else .error (challenge "invalid credentials")

/-- Permits a request: it is not too long, goes to the APIs, comes from the administrator, and has a
method that the APIs have. -/
def permit (interface : Interface) (request : Request) : Except Reply (String × Action) :=
  match Place.ofPath? request.target.path with
  | some .health =>
    if Place.health.methods.contains request.method then .error healthReply
    else .error (Place.health.advise request.method (.empty 405))
  | place =>
    let advised (reply : Reply) : Reply :=
      match place with
      | some place => place.advise request.method reply
      | none => reply
    if request.declaredLength.any (interface.maxUpload < ·) then
      .error (advised (.text 413 "length limit exceeded"))
    else if place.isNone then .error (.empty 404)
    else match interface.authenticate request with
      | .error reply => .error (advised reply)
      | .ok user =>
        match Action.ofMethod? request.method with
        | some action => .ok (user, action)
        | none => .error (advised (.empty 405))

/-- The part of a form that holds the bundle. -/
def bundlePart : String := "file"

/-- The bundle in the body of a request: the whole body, or a part of a form. -/
def readUpload (interface : Interface) (request : Request) : Except Problem ByteArray := do
  let fits := request.body.size ≤ interface.maxUpload
  let type := (request.contentType.bind Http.MediaType.parse?).filter Http.MediaType.isForm
  let bundle ← match type with
    | none =>
      if fits then pure request.body
      else throw (.tooLarge "Failed to buffer the request body: length limit exceeded")
    | some type =>
      match type.boundary? with
      | none =>
        throw (.badRequest ("Invalid \x60boundary\x60 for \x60multipart/form-data\x60 request"))
      | some boundary =>
        if !fits then throw (.tooLarge "Request payload is too large")
        match Http.Multipart.find bundlePart boundary request.body.toList with
        | .error fault => throw (.badRequest fault.message)
        | .ok none => throw (.badRequest ("multipart body has no '" ++ bundlePart ++ "' field"))
        | .ok (some contents) => pure ⟨contents.toArray⟩
  if bundle.isEmpty then throw (.badRequest "request body is empty")
  return bundle

/-- Reads what an upload asks for, and the bundle in it. -/
def readUploadRequest (interface : Interface) (request : Request) (query : Query) :
    Except Problem (DeployOptions × ByteArray) := do
  let (some overwrite, some preserveProvider) :=
      (query.flag? "overwrite", query.flag? "preserveProvider") | throw badQuery
  return (⟨overwrite, preserveProvider⟩, ← interface.readUpload request)

/-- What a client gets to know of a fault: the problem that it is, if it is reported at all. -/
def reported (fault : Deploy.Fault) : Option (Except Problem Reply) :=
  fault.toError.map fun error => .error (.ofError error)

/-- Deploys the bundle in a request. -/
def upload (interface : Interface) (deployer : Deployer) (user : String) (request : Request)
    (query : Query) : Option (Except Problem Reply) × Deployer :=
  match interface.readUploadRequest request query with
  | .error problem => (some (.error problem), deployer)
  | .ok (options, bundle) =>
    match (Deployer.deployBundle options user bundle).run deployer with
    | .ok report next =>
      (some (.ok (.json (if report.deployed.isEmpty then 200 else 201) report.toJson)), next)
    | .error fault after => (reported fault, after)

/-- Lists what is deployed. -/
def list (deployer : Deployer) (query : Query) : Except Problem Reply := do
  let (some part, some limit) := (query.value? "query", query.count? "limit") | throw badQuery
  return .json 200 (listing (deployer.list part limit))

/-- The API that a query names. -/
def readId (query : Query) : Except Problem ApiId := do
  let (some name, some version) := (query.value? "name", query.value? "version") | throw badQuery
  let (some name, some version) := (name, version)
    | throw (.badRequest "query parameters 'name' and 'version' are required")
  return ⟨name, version⟩

/-- Deletes the API that a query names. -/
def delete (deployer : Deployer) (query : Query) : Option (Except Problem Reply) × Deployer :=
  match readId query with
  | .error problem => (some (.error problem), deployer)
  | .ok id =>
    match (Deployer.delete id).run deployer with
    | .ok () next => (some (.ok (.empty 204)), next)
    | .error fault after => (reported fault, after)

/-- What a permitted request does; nothing comes of it if the work breaks off. -/
def act (interface : Interface) (deployer : Deployer) (user : String) (request : Request) :
    Action → Option (Except Problem Reply) × Deployer
  | .list => (some (list deployer (.parse request.target.query)), deployer)
  | .upload => interface.upload deployer user request (.parse request.target.query)
  | .delete => delete deployer (.parse request.target.query)

/-- The answer to a request, and the deployer after it. If the work breaks off there is no answer,
and the connection is closed. -/
def respond (interface : Interface) (deployer : Deployer) (request : Request) :
    Option Reply × Deployer :=
  match interface.permit request with
  | .error reply => (some reply, deployer)
  | .ok (user, action) =>
    match interface.act deployer user request action with
    | (some (.ok reply), next) => (some reply, next)
    | (some (.error problem), after) => (some problem.reply, after)
    | (none, after) => (none, after)

/-- The answer as it is sent: to a request for the head alone, without content. -/
def handle (interface : Interface) (deployer : Deployer) (request : Request) :
    Option Reply × Deployer :=
  let (reply, next) := interface.respond deployer request
  (reply.map fun reply => if request.method = "HEAD" then { reply with body := .none } else reply,
    next)

end Interface

end ControlPlane.Admin
