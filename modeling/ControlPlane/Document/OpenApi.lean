import ControlPlane.Document.Basic
import ControlPlane.Document.OpenApi.Model

/-! Documents in the third version of the format, with a list of servers. -/

namespace ControlPlane.Document.OpenApi

/-- The optional text under a key. -/
def textAt (key : String) (value : Json) : Option String := (value.field? key).bind Json.text?

/-- A text in which every occurrence of a word is replaced; the word is not empty.

`skip` counts the characters of an occurrence that are still to be dropped. -/
def replaceAll (word replacement : List Char) (skip : Nat) : List Char → List Char
  | [] => []
  | c :: rest =>
    match skip with
    | n + 1 => replaceAll word replacement n rest
    | 0 =>
      if (Text.afterPrefix? word (c :: rest)).isSome then
        replacement ++ replaceAll word replacement (word.length - 1) rest
      else c :: replaceAll word replacement 0 rest

/-- The URL of a server with its variables replaced by their defaults, in their order. -/
def serverUrl (server : Json) : String :=
  let declarations := ((server.field? "variables").bind Json.fields?).getD []
  let expanded := declarations.foldl (fun url (name, declared) =>
    replaceAll ('\x7b' :: name.toList ++ ['\x7d']) ((textAt "default" declared).getD "").toList 0 url)
    ((textAt "url" server).getD "").toList
  String.ofList expanded

/-- Whether a server's URL names a host. -/
def isAbsolute (url : String) : Bool := Text.hasWord [':', '/', '/'] url.toList

/-- The path of a server. -/
def serverPath (url : String) : String :=
  if isAbsolute url then
    match Url.parse url with
    | .ok parsed => parsed.path
    | .error _ => ""
  else url

/-- The backend that a server's URL declares. -/
def backendOf (url : String) : Except Fault Endpoint :=
  match Endpoint.parse .production url with
  | .ok endpoint => .ok endpoint
  | .error fault => .error (.endpoint none fault)

/-- The operation of one verb. -/
def operationOf (path : String) (method : Method) (value : Json) : Except Fault Operation := do
  let extensions ← OperationExtensions.read (value.fields?.getD [])
  return { path, method, operationId := textAt "operationId" value
           summary := textAt "summary" value, extensions }

/-- The operations of one path in the order of the verbs. -/
def operationsOf (path : String) (item : Json) : Except Fault (List Operation) :=
  match textAt "$ref" item with
  | some target => .error (.pathReference path (some target))
  | none =>
    (Method.all.filterMap fun method =>
      match item.field? method.lowerText with
      | none | some .null => none
      | some value => some (method, value)).mapM
      fun (method, value) => operationOf path method value

/-- Reads the parts of a document. -/
def read (document : Json) : Except Fault Parts :=
  if !isDocument document then .error .notOpenApi
  else do
    let extensions ← ApiExtensions.read (document.fields?.getD [])
    let servers := ((document.field? "servers").bind Json.items?).getD []
    let urls := servers.map serverUrl
    let production ← (urls.filter isAbsolute).mapM backendOf
    let paths := ((document.field? "paths").bind Json.fields?).getD []
    let operations ← (paths.filter fun (path, _) => path.toList.head? = some '/').mapM
      fun (path, item) => operationsOf path item
    let info := (document.field? "info").getD .null
    return { title := (textAt "title" info).getD "", version := (textAt "version" info).getD ""
             extensions, basePath := urls.head?.map serverPath, production
             operations := operations.flatten }

end ControlPlane.Document.OpenApi
