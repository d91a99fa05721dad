import ControlPlane.Http.Query

/-! Requests, as far as the administrative interface looks at them. -/

namespace ControlPlane.Http

/-- What a request asks for: a path, and a query without its question mark. -/
structure Target where
  path : String
  query : String := ""
deriving DecidableEq, Repr

/-- A target written as a path, or as a URL of which the path counts; a fragment is left off. -/
def Target.parse (text : String) : Target :=
  let cs := text.toList.takeWhile (· != '#')
  let wanted := match cs with
    | '/' :: _ | '*' :: _ => cs
    | _ => match Text.cutFirst? "://".toList cs with
      | some (_, rest) => rest.dropWhile fun c => !(c == '/' || c == '?')
      | none => cs
  let path := wanted.takeWhile (· != '?')
  ⟨if path.isEmpty then "/" else String.ofList path, String.ofList ((wanted.drop path.length).drop 1)⟩

/-- A request. -/
structure Request where
  method : String
  target : Target
  authorization : Option String := none
  contentType : Option String := none
  /-- The length of the body that the request announces. -/
  declaredLength : Option Nat := none
  body : ByteArray := .empty

end ControlPlane.Http
