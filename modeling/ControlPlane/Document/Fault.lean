import ControlPlane.Api.Basic
import ControlPlane.Json.Printer

/-! Why a document does not describe an API. -/

namespace ControlPlane.Document

/-! The keys of the vendor extensions that the gateway understands. -/

/-- The key of the labels that an API is published under. -/
def labelsKey : String := "x-gateway-labels"

/-- The key of the path below which an API has its resources. -/
def basePathKey : String := "x-gateway-basepath"

/-- The key of the backends in production, of an API or of one operation. -/
def productionKey : String := "x-gateway-production-endpoints"

/-- The key of the backends for trying out, of an API or of one operation. -/
def sandboxKey : String := "x-gateway-sandbox-endpoints"

/-- The key of the seconds that a backend has for an answer. -/
def requestTimeoutKey : String := "x-gateway-request-timeout"

/-- The key of the name of whoever provides an API. -/
def providerKey : String := "x-gateway-provider"

/-- Why a document does not describe an API. -/
inductive Fault where
  | undecodable
  | notObject
  | unsupportedVersion (key : String) (value : Json)
  | noVersion
  | notSwagger
  | notOpenApi
  | operation (method : Method) (path : String)
  | pathItem (path : String)
  | pathReference (path : String) (target : Option String)
  | labels (fault : Labels.Fault)
  | endpoint (field : Option String) (fault : Endpoint.Fault)
  | endpointsShape (field : String)
  | endpointShape (field : String)
  | notText (field : String)
  | requestTimeout
  | emptyTitle
  | emptyVersion

namespace Fault

/-- The wording of a fault. -/
def message : Fault → String
  | undecodable => "document is neither valid JSON (malformed) nor valid YAML (malformed)"
  | notObject => "document root must be an object"
  | unsupportedVersion _ value => "unsupported specification version " ++ value.render
  | noVersion => "document declares neither 'swagger' nor 'openapi' version"
  | notSwagger => "invalid Swagger 2.0 document: unexpected shape"
  | notOpenApi => "invalid OpenAPI 3 document: unexpected shape"
  | operation method path => "invalid operation " ++ method.text ++ " " ++ path ++ ": unexpected shape"
  | pathItem _ => "path item must be an object"
  | pathReference _ none => "referenced path items are not supported"
  | pathReference _ (some target) => "referenced path items are not supported (" ++ target ++ ")"
  | labels fault => fault.message
  | endpoint _ fault => fault.message
  | endpointsShape _ => "endpoints must be an object with a 'urls' list"
  | endpointShape _ => "endpoint URLs must be strings"
  | notText _ => "value must be a string"
  | requestTimeout => "request timeout must be an integer between 1 and 3600 seconds"
  | emptyTitle => "API title cannot be empty"
  | emptyVersion => "API version cannot be empty"

/-- The place in the document that a fault is about. -/
def field : Fault → Option String
  | undecodable | notObject | noVersion | notSwagger | notOpenApi => none
  | unsupportedVersion key _ => some key
  | operation _ path | pathItem path | pathReference path _ => some path
  | labels _ => some labelsKey
  | endpoint field _ => field
  | endpointsShape field | endpointShape field | notText field => some field
  | requestTimeout => some requestTimeoutKey
  | emptyTitle => some "info.title"
  | emptyVersion => some "info.version"

/-- A fault of a document as a failure of the control plane. -/
def toError (fault : Fault) : Error := .inputFormat fault.message fault.field

end Fault

end ControlPlane.Document
