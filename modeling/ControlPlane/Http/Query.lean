import ControlPlane.Text.Utf8
import ControlPlane.Url.Host

/-! The query of a request: names and values in the form that HTML forms send. -/

namespace ControlPlane.Http

/-- The pairs of a query, in order. -/
abbrev Query := List (String × String)

namespace Query

/-- The text of a name or a value, in which a plus is a space and bytes may be escaped. -/
def decode (cs : List Char) : String :=
  let spaced := String.ofList (cs.map fun c => if c = '+' then ' ' else c)
  Text.ofUtf8Lossy (Url.percentDecode spaced.toUTF8.toList)

/-- The pair of a piece, whose first equals sign ends the name. -/
def pair (piece : List Char) : String × String :=
  (decode (piece.takeWhile (· != '=')), decode ((piece.dropWhile (· != '=')).drop 1))

/-- The pairs between ampersands; empty pieces give none. -/
def parse (text : String) : Query :=
  ((Text.cutAt (· == '&') text.toList).filter (!·.isEmpty)).map pair

/-- The value of a field that may be left out, but may not be given twice. -/
def value? (query : Query) (name : String) : Option (Option String) :=
  match query.filter fun (key, _) => key == name with
  | [] => some none
  | [(_, value)] => some (some value)
  | _ => none

/-- A field that is true or false, and false where it is left out. -/
def flag? (query : Query) (name : String) : Option Bool := do
  match ← query.value? name with
  | none => return false
  | some "true" => return true
  | some "false" => return false
  | some _ => none

/-- A field that is a whole number of 64 bits, with or without a plus in front. -/
def count? (query : Query) (name : String) : Option (Option Nat) := do
  match ← query.value? name with
  | none => return none
  | some text =>
    let digits := match text.toList with
      | '+' :: rest => rest
      | cs => cs
    let n := Decimal.natOfDigits digits
    if digits.isEmpty || !digits.all Char.isDigit || Nat.pow 2 64 ≤ n then none else return some n

end Query

end ControlPlane.Http
