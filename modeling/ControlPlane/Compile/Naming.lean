import ControlPlane.Api.Basic
import ControlPlane.Hash.Sha256

/-! Names of the resources that an API compiles to, which depend on its description alone. -/

namespace ControlPlane.Naming

/-- The ASCII letters and digits of some characters in lower case, with one `_` in place of whatever
else stands next to each other; `apart` tells whether no letter or digit comes right before. -/
def spaced (apart : Bool) : List Char → List Char
  | [] => []
  | c :: rest =>
    if c.isAlphanum then c.toLower :: spaced false rest
    else if apart then spaced true rest
    else '_' :: spaced true rest

/-- An identifier in lower case, with `_` for whatever stands between its letters and digits. -/
def sanitize (raw : String) : String :=
  match Text.dropRight (· == '_') (spaced true raw.toList) with
  | [] => "api"
  | found => String.ofList found

/-- A byte in two hexadecimal digits. -/
def hexByte (b : UInt8) : List Char :=
  let digit (n : Nat) : Char := if n < 10 then Char.ofNat (48 + n) else Char.ofNat (87 + n)
  [digit (b.toNat / 16), digit (b.toNat % 16)]

/-- The first four bytes of a text's digest in hexadecimal digits. -/
def shortHash (text : String) : String :=
  String.ofList (((Sha256.digest text.toUTF8.toList).take 4).flatMap hexByte)

/-- The beginning of all names of one API. -/
def apiKey (id : ApiId) : String := sanitize id.name ++ "_" ++ sanitize id.version

/-- The cluster of the backends of a whole API. -/
def cluster (id : ApiId) (environment : Environment) : String :=
  "cluster_" ++ environment.text ++ "_" ++ apiKey id

/-- The end of the names that belong to one operation. -/
def operation (method : Method) (template : String) : String :=
  "_" ++ method.lowerText ++ "_" ++ shortHash template

/-- The cluster of an operation's own backends. -/
def overrideCluster (id : ApiId) (environment : Environment) (method : Method)
    (template : String) : String :=
  cluster id environment ++ operation method template

/-- The route of an operation. -/
def route (id : ApiId) (method : Method) (template : String) : String :=
  apiKey id ++ operation method template

end ControlPlane.Naming
