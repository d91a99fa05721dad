import ControlPlane.Document.Extension
import ControlPlane.Json.Parser
import ControlPlane.Yaml.Document

/-! Documents: their text, their format, and the parts that every format has. -/

namespace ControlPlane.Document

/-- The value of a document, which is JSON or else YAML. -/
def decode (raw : ByteArray) : Except Fault Json :=
  match String.fromUTF8? raw with
  | none => .error .undecodable
  | some text =>
    match Json.parse? text with
    | some value => .ok value
    | none =>
      match Yaml.parse? text with
      | some value => .ok value
      | none => .error .undecodable

/-- A family of description formats. -/
inductive Format where
  | swagger2 | openApi3
deriving DecidableEq, Repr

/-- The format if the declared version begins with a digit. -/
def formatIf (digit : Char) (format : Format) (key : String) (version : Json) :
    Except Fault Format :=
  match version with
  | .str text =>
    if text.toList.head? = some digit then .ok format else .error (.unsupportedVersion key version)
  | _ => .error (.unsupportedVersion key version)

/-- The format that a document declares by the version under its format's key. -/
def formatOf (document : Json) : Except Fault Format :=
  match document with
  | .obj fields =>
    match Json.lookup "swagger" fields, Json.lookup "openapi" fields with
    | some version, _ => formatIf '2' .swagger2 "swagger" version
    | none, some version => formatIf '3' .openApi3 "openapi" version
    | none, none => .error .noVersion
  | _ => .error .notObject

/-- One operation of a document. -/
structure Operation where
  path : String
  method : Method
  operationId : Option String
  summary : Option String
  extensions : OperationExtensions

/-- The parts that a document of any format has. -/
structure Parts where
  title : String
  version : String
  extensions : ApiExtensions
  /-- The base path if no extension gives one. -/
  basePath : Option String
  /-- The production backends if no extension gives any. -/
  production : List Endpoint
  operations : List Operation

end ControlPlane.Document
