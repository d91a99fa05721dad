import ControlPlane.Document.Basic

/-! Documents in the second version of the format, with one host and base path. -/

namespace ControlPlane.Document.Swagger

/-- The text under a key, if it has one. -/
def optionalText? (key : String) (fields : List (String × Json)) : Option (Option String) :=
  match Json.lookup key fields with
  | none | some .null => some none
  | some (.str text) => some (some text)
  | some _ => none

/-- The title and version, as fields or as a list of the two. -/
def info? : Json → Option (String × String)
  | .obj fields => do
    let title ← Json.lookup "title" fields
    let version ← Json.lookup "version" fields
    return (← title.text?, ← version.text?)
  | .arr [.str title, .str version] => some (title, version)
  | _ => none

/-- What the top of a document declares. -/
structure Head where
  title : String
  version : String
  host : Option String
  basePath : Option String
  schemes : List String
  paths : List (String × Json)

/-- Reads the top of a document. -/
def head? (fields : List (String × Json)) : Option Head := do
  let (title, version) ← (Json.lookup "info" fields).bind info?
  let host ← optionalText? "host" fields
  let basePath ← optionalText? "basePath" fields
  let schemes ← match Json.lookup "schemes" fields with
    | none => some []
    | some value => value.items?.bind (·.mapM Json.text?)
  let paths ← match Json.lookup "paths" fields with
    | none => some []
    | some value => value.fields?
  return { title, version, host, basePath, schemes, paths }

/-- The backend that the host declares; a blank host declares none. -/
def backends (head : Head) : Except Fault (List Endpoint) :=
  let host := Text.trim (head.host.getD "")
  if host.isEmpty then .ok []
  else
    let scheme := head.schemes.head?.getD "http"
    let url := scheme ++ "://" ++ host ++ head.basePath.getD ""
    match Endpoint.parse .production url with
    | .ok endpoint => .ok [endpoint]
    | .error fault => .error (.endpoint none fault)

/-- The operation of one verb. -/
def operationOf (path : String) (method : Method) (value : Json) : Except Fault Operation :=
  let ids? : Option (Option String × Option String × List (String × Json)) := do
    let fields ← value.fields?
    return (← optionalText? "operationId" fields, ← optionalText? "summary" fields, fields)
  match ids? with
  | none => .error (.operation method path)
  | some (operationId, summary, fields) => do
    let extensions ← OperationExtensions.read fields
    return { path, method, operationId, summary, extensions }

/-- The operations of one path in the order of the verbs. -/
def operationsOf (path : String) (item : Json) : Except Fault (List Operation) :=
  match item with
  | .obj fields =>
    if (Json.lookup "$ref" fields).isSome then .error (.pathReference path none)
    else
      (Method.all.filterMap fun method =>
        (Json.lookup method.lowerText fields).map fun value => (method, value)).mapM
        fun (method, value) => operationOf path method value
  | _ => .error (.pathItem path)

/-- Reads the parts of a document. -/
def read (document : Json) : Except Fault Parts :=
  match document.fields? with
  | none => .error .notSwagger
  | some fields =>
    match head? fields with
    | none => .error .notSwagger
    | some head => do
      let extensions ← ApiExtensions.read fields
      let production ← backends head
      let operations ← head.paths.mapM fun (path, item) => operationsOf path item
      return { title := head.title, version := head.version, extensions
               basePath := head.basePath, production, operations := operations.flatten }

end ControlPlane.Document.Swagger
