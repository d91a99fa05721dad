import ControlPlane.Url.Basic

/-! Verbs, environments, and the backend targets that a document declares. -/

namespace ControlPlane

/-- An HTTP verb that an operation may have. -/
inductive Method where
  | get | put | post | delete | options | head | patch | trace
deriving DecidableEq, Repr

namespace Method

/-- The verbs in the order in which the operations of one path are listed. -/
def all : List Method := [.get, .put, .post, .delete, .options, .head, .patch, .trace]

/-- The name of a verb. -/
def text : Method → String
  | .get => "GET"
  | .put => "PUT"
  | .post => "POST"
  | .delete => "DELETE"
  | .options => "OPTIONS"
  | .head => "HEAD"
  | .patch => "PATCH"
  | .trace => "TRACE"

/-- The name of a verb in lower case, as documents and resource names spell it. -/
def lowerText : Method → String
  | .get => "get"
  | .put => "put"
  | .post => "post"
  | .delete => "delete"
  | .options => "options"
  | .head => "head"
  | .patch => "patch"
  | .trace => "trace"

/-- Every verb is listed. -/
theorem mem_all (method : Method) : method ∈ all := by cases method <;> decide

/-- A verb is known by its name. -/
theorem lowerText_injective {method method' : Method}
    (same : method.lowerText = method'.lowerText) : method = method' := by
  revert same
  cases method <;> cases method' <;> decide

end Method

/-- The environment that a backend serves. -/
inductive Environment where
  | production | sandbox
deriving DecidableEq, Repr

/-- The name of an environment. -/
def Environment.text : Environment → String
  | .production => "production"
  | .sandbox => "sandbox"

/-- A backend target. -/
structure Endpoint where
  environment : Environment
  /-- The text that was declared, with its scheme. -/
  url : String
  scheme : String
  /-- A name or an address, without brackets. -/
  host : String
  port : Nat
  /-- The prefix of paths at the backend, without a slash at its end; empty for the root. -/
  path : String
  tls : Bool
deriving DecidableEq, Repr

namespace Endpoint

/-- Why a text is not a backend target. -/
inductive Fault where
  | empty
  | url (raw : String) (error : Url.Error)
  | unsupported (raw scheme : String)
  | noHost (raw : String)
  | noPort (raw : String)
deriving DecidableEq, Repr

/-- The wording of a fault. -/
def Fault.message : Fault → String
  | .empty => "endpoint URL cannot be empty"
  | .url raw error => "invalid endpoint URL '" ++ raw ++ "': " ++ error.message
  | .unsupported raw scheme => "endpoint URL '" ++ raw ++ "' uses unsupported scheme '" ++ scheme ++ "'"
  | .noHost raw => "endpoint URL '" ++ raw ++ "' does not contain a host"
  | .noPort raw => "endpoint URL '" ++ raw ++ "' does not include a usable port"

/-- A declared text with the scheme `http` in front of it unless it has `://` anywhere. -/
def withScheme (text : String) : String :=
  if Text.hasWord [':', '/', '/'] text.toList then text else "http://" ++ text

/-- A host without the brackets of an address. -/
def bareHost (host : String) : String :=
  String.ofList (Text.dropRight (· == ']') (host.toList.dropWhile (· == '[')))

/-- The target that a parsed URL names; `raw` is the text for messages. -/
def ofUrl (environment : Environment) (raw : String) (url : Url) : Except Fault Endpoint := do
  let tls ←
    if url.scheme = "http" then .ok false
    else if url.scheme = "https" then .ok true
    else .error (.unsupported raw url.scheme)
  match url.host with
  | none => .error (.noHost raw)
  | some host =>
    match url.effectivePort? with
    | none => .error (.noPort raw)
    | some port =>
      return { environment, url := withScheme raw, scheme := url.scheme, host := bareHost host, port
               path := String.ofList (Text.dropRight (· == '/') url.path.toList), tls }

/-- Reads a backend target; a text without a scheme means plain HTTP. -/
def parse (environment : Environment) (raw : String) : Except Fault Endpoint :=
  let text := Text.trim raw
  if text.isEmpty then .error .empty
  else match Url.parse (withScheme text) with
    | .error error => .error (.url text error)
    | .ok url => ofUrl environment text url

end Endpoint

end ControlPlane
