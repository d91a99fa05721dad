import ControlPlane.Document.Fault

/-! Vendor extensions: what the gateway reads from the `x-` entries of a document. -/

namespace ControlPlane.Document

/-- Whether a key belongs to a vendor extension. -/
def isExtension (key : String) : Bool := (Text.afterPrefix? ['x', '-'] key.toList).isSome

/-- The vendor extensions among the entries of an object. -/
def extensionsOf (entries : List (String × Json)) : OrderedMap String Json :=
  .ofList (entries.filter fun (key, _) => isExtension key)

/-- The backend that an item of a list of URLs declares. -/
def endpointOf (environment : Environment) (field : String) (item : Json) :
    Except Fault Endpoint :=
  match item with
  | .str raw =>
    match Endpoint.parse environment raw with
    | .ok endpoint => .ok endpoint
    | .error fault => .error (.endpoint (some field) fault)
  | _ => .error (.endpointShape field)

/-- The backends that a value declares: an object with a list under `urls`. -/
def endpointsOf (environment : Environment) (field : String) (value : Option Json) :
    Except Fault (List Endpoint) :=
  match value with
  | none => .ok []
  | some value =>
    match (value.field? "urls").bind Json.items? with
    | none => .error (.endpointsShape field)
    | some items => items.mapM (endpointOf environment field)

/-- The text that a value declares, without blanks around it; a blank text counts as none. -/
def textOf (field : String) : Option Json → Except Fault (Option String)
  | none | some .null => .ok none
  | some (.str raw) =>
    let text := Text.trim raw
    .ok (if text.isEmpty then none else some text)
  | some _ => .error (.notText field)

/-- The greatest request timeout in seconds. -/
def maxRequestTimeout : Nat := 3600

/-- The request timeout that a value declares in whole seconds. -/
def requestTimeoutOf : Option Json → Except Fault (Option Duration)
  | none | some .null => .ok none
  | some value =>
    match value.nat? with
    | some seconds =>
      if 1 ≤ seconds ∧ seconds ≤ maxRequestTimeout then .ok (some (.ofSeconds seconds))
      else .error .requestTimeout
    | none => .error .requestTimeout

/-- What the extensions of a whole API declare. -/
structure ApiExtensions where
  labels : Labels
  basePath : Option String
  production : List Endpoint
  sandbox : List Endpoint
  requestTimeout : Option Duration
  provider : Option String
  declared : OrderedMap String Json

/-- Reads the extensions of a whole API from the entries at the top of a document. -/
def ApiExtensions.read (entries : List (String × Json)) : Except Fault ApiExtensions := do
  let declared := extensionsOf entries
  let labels ← match Labels.ofValue (declared.get? labelsKey) with
    | .ok labels => .ok labels
    | .error fault => .error (.labels fault)
  let basePath ← textOf basePathKey (declared.get? basePathKey)
  let production ← endpointsOf .production productionKey (declared.get? productionKey)
  let sandbox ← endpointsOf .sandbox sandboxKey (declared.get? sandboxKey)
  let requestTimeout ← requestTimeoutOf (declared.get? requestTimeoutKey)
  let provider ← textOf providerKey (declared.get? providerKey)
  return { labels, basePath, production, sandbox, requestTimeout, provider, declared }

/-- What the extensions of one operation declare. -/
structure OperationExtensions where
  production : List Endpoint
  sandbox : List Endpoint

/-- Reads the extensions of one operation from its entries. -/
def OperationExtensions.read (entries : List (String × Json)) :
    Except Fault OperationExtensions := do
  let production ← endpointsOf .production productionKey (Json.lookup productionKey entries)
  let sandbox ← endpointsOf .sandbox sandboxKey (Json.lookup sandboxKey entries)
  return { production, sandbox }

end ControlPlane.Document
