import ControlPlane.Decimal.Reader
import ControlPlane.Json.Parser

/-! What a plain scalar stands for: null, a boolean, a number, or else its own text. -/

namespace ControlPlane.Yaml

/-- Whether a scalar is one of the words for null. -/
def isNullWord (s : String) : Bool := s == "null" || s == "Null" || s == "NULL" || s == "~"

/-- The boolean that a word stands for. -/
def boolWord? (s : String) : Option Bool :=
  if s = "true" ∨ s = "True" ∨ s = "TRUE" then some true
  else if s = "false" ∨ s = "False" ∨ s = "FALSE" then some false
  else none

/-- The number that digits of a base denote. -/
def digitsInBase? (base : Nat) (cs : List Char) : Option Nat :=
  if cs.isEmpty then none
  else cs.foldlM (fun n c => do
    let d ← Json.Token.hexDigit? c
    if d < base then some (n * base + d) else none) 0

/-- The base that a letter after a zero announces. -/
def baseOf? : Char → Option Nat
  | 'x' => some 16 | 'o' => some 8 | 'b' => some 2
  | _ => none

/-- Several digits of which the first is a zero; such a text is no number. -/
def isZeroPadded (cs : List Char) : Bool :=
  let digits := match cs with
    | '-' :: rest | '+' :: rest => rest
    | _ => cs
  match digits with
  | '0' :: d :: rest => (d :: rest).all Char.isDigit
  | _ => false

/-- The magnitude of a whole number without a sign. -/
def magnitude? (cs : List Char) : Option Nat :=
  match cs with
  | '0' :: letter :: digits =>
    match baseOf? letter with
    | some base => digitsInBase? base digits
    | none => if isZeroPadded cs then none else digitsInBase? 10 cs
  | _ => digitsInBase? 10 cs

/-- The whole number that a scalar denotes. -/
def int? (cs : List Char) : Option Int :=
  match cs with
  | '-' :: digits => (magnitude? digits).map fun n => -(n : Int)
  | '+' :: digits => (magnitude? digits).map fun n => (n : Int)
  | _ => (magnitude? cs).map fun n => (n : Int)

/-- The double that a scalar denotes; infinities and NaN count as null in a document. -/
def double? (cs : List Char) : Option Json :=
  let text := String.ofList cs
  let special := [".inf", ".Inf", ".INF", "+.inf", "+.Inf", "+.INF", "-.inf", "-.Inf", "-.INF",
    ".nan", ".NaN", ".NAN"]
  if special.contains text then some .null
  else
    let signedTwice := match cs with
      | '+' :: '+' :: _ | '+' :: '-' :: _ => true
      | _ => false
    if signedTwice then none
    else (Decimal.readDouble? cs).bind fun d =>
      if d.isFinite then some (.num (.real d)) else none

/-- A whole number as a value; one that needs more than 64 bits but not more than 128 is refused. -/
def ofInt? (i : Int) : Option (Option Json) :=
  if -(Int.pow 2 63) ≤ i ∧ i < Int.pow 2 64 then some (some (.num (.int i)))
  else if -(Int.pow 2 127) ≤ i ∧ i < Int.pow 2 128 then some none
  else none

/-- The value of a plain scalar without a tag; none if it is a number that is refused. -/
def plainValue? (text : String) : Option Json :=
  let cs := text.toList
  if text.isEmpty || isNullWord text then some .null
  else match boolWord? text with
    | some b => some (.bool b)
    | none =>
      match (int? cs).bind ofInt? with
      | some value => value
      | none =>
        if isZeroPadded cs then some (.str text)
        else some ((double? cs).getD (.str text))

/-- The value of a scalar under a tag of the core schema; none if the text does not fit the tag. -/
def taggedValue? (tag text : String) : Option Json :=
  let cs := text.toList
  if tag = "tag:yaml.org,2002:bool" then (boolWord? text).map .bool
  else if tag = "tag:yaml.org,2002:int" then ((int? cs).bind ofInt?).join
  else if tag = "tag:yaml.org,2002:float" then double? cs
  else if tag = "tag:yaml.org,2002:null" then if isNullWord text then some .null else none
  else some (.str text)

end ControlPlane.Yaml
