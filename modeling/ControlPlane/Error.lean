/-! Failures of the control plane, by the boundary that is responsible for them. -/

namespace ControlPlane

/-- A failure of the control plane. -/
inductive Error where
  /-- A document, archive or value that a client sent is malformed, perhaps at a named field. -/
  | inputFormat (message : String) (field : Option String)
  /-- An API compiles to something incomplete. -/
  | compilation (api message : String)
  /-- One subscriber's stream failed. -/
  | distribution (label message : String)
  /-- Startup material is missing or unreadable; `sourced` when another failure is the reason. -/
  | bootstrap (message : String) (sourced : Bool)
  /-- Values of the configuration are out of range, each problem with its place. -/
  | misconfigured (problems : List String)
  | config (message : String)
  | transport (message : String)
  | conflict (message : String)
  | notFound (message : String)
  | io (message : String)
  | internal (message : String)
deriving DecidableEq, Repr

namespace Error

/-- Malformed input without a field. -/
def input (message : String) : Error := .inputFormat message none

/-- Malformed input at a field. -/
def inputAt (field message : String) : Error := .inputFormat message (some field)

/-- The text shown for a failure. -/
def display : Error → String
  | .inputFormat message _ => "Input format error: " ++ message
  | .compilation api message =>
    "Compilation invariant violated for API '" ++ api ++ "': " ++ message
  | .distribution label message =>
    "Distribution transport error for label '" ++ label ++ "': " ++ message
  | .bootstrap message _ => "Bootstrap error: " ++ message
  | .misconfigured problems =>
    "Bootstrap error: invalid configuration: " ++ String.intercalate "\n" problems
  | .config message => "Configuration error: " ++ message
  | .transport message => "Transport error: " ++ message
  | .conflict message => "Resource conflict: " ++ message
  | .notFound message => "Resource not found: " ++ message
  | .io message => "I/O error: " ++ message
  | .internal message => "Internal error: " ++ message

/-- Whether a client's own input is the reason. -/
def isClientError : Error → Bool
  | .inputFormat .. | .conflict _ | .notFound _ => true
  | _ => false

/-- Whether another failure is recorded as the reason. -/
def hasSource : Error → Bool
  | .bootstrap _ sourced => sourced
  | .io _ => true
  | _ => false

end Error

end ControlPlane
