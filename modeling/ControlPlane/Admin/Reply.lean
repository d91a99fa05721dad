import ControlPlane.Error
import ControlPlane.Json.Basic
import ControlPlane.Text.Blank

/-! Answers of the administrative interface, and the answer that reports each kind of failure. -/

namespace ControlPlane.Admin

/-- What an answer carries. -/
inductive Body where
  | none
  | json (value : Json)
  | text (text : String)
deriving Repr

/-- An answer to an HTTP request. -/
structure Reply where
  status : Nat
  contentType : Option String := none
  body : Body := .none
  /-- How clients may authenticate. -/
  challenge : Option String := none
  /-- The methods that the path has. -/
  allow : Option String := none
deriving Repr

namespace Reply

/-- An answer without content. -/
def empty (status : Nat) : Reply := { status }

/-- An answer with a document. -/
def json (status : Nat) (value : Json) : Reply :=
  { status, contentType := some "application/json", body := .json value }

/-- An answer with plain text. -/
def text (status : Nat) (text : String) : Reply :=
  { status, contentType := some "text/plain; charset=utf-8", body := .text text }

end Reply

/-- Why a request is refused. -/
inductive Problem where
  | badRequest (description : String)
  | unauthorized (description : String)
  | notFound (description : String)
  | conflict (description : String)
  | tooLarge (description : String)
  | internal (description : String)
deriving DecidableEq, Repr

namespace Problem

/-- The HTTP status of a problem. -/
def status : Problem → Nat
  | badRequest _ => 400
  | unauthorized _ => 401
  | notFound _ => 404
  | conflict _ => 409
  | tooLarge _ => 413
  | internal _ => 500

/-- The word by which clients tell problems apart. -/
def code : Problem → String
  | badRequest _ => "bad_request"
  | unauthorized _ => "unauthorized"
  | notFound _ => "not_found"
  | conflict _ => "conflict"
  | tooLarge _ => "payload_too_large"
  | internal _ => "internal_error"

/-- What happened. -/
def description : Problem → String
  | badRequest d | unauthorized d | notFound d | conflict d | tooLarge d | internal d => d

/-- The answer that reports a problem. -/
def reply (problem : Problem) : Reply :=
  .json problem.status
    (.obj [("code", .str problem.code), ("description", .str problem.description)])

/-- The problem that a failure is to a client: malformed input says where it is, once. -/
def ofError : Error → Problem
  | .inputFormat message (some field) =>
    if Text.hasWord field.toList message.toList then .badRequest message
    else .badRequest (message ++ " (at " ++ field ++ ")")
  | .inputFormat message none => .badRequest message
  | .conflict message => .conflict message
  | .notFound message => .notFound message
  | other => .internal other.display

end Problem

end ControlPlane.Admin
