import ControlPlane.Decimal.Plain
import ControlPlane.Json.Number
import ControlPlane.Log.Level
import ControlPlane.Unicode.Alphanumeric

/-! Directives of a log filter: a level, and the messages for which it holds. -/

namespace ControlPlane.Log

/-- What the value of a field is compared with. -/
inductive FieldValue where
  | flag (value : Bool)
  | whole (value : Int)
  | real (value : Double)
  | notANumber
  | pattern (text : String)
deriving DecidableEq, Repr

namespace FieldValue

/-- Reads a truth value, a number, or else a pattern. -/
def parse (text : String) : FieldValue :=
  let cs := text.toList
  let whole := (Decimal.readInt? cs).filter fun n => -(Int.pow 2 63) ≤ n && n < Int.pow 2 64
  if text = "true" then .flag true
  else if text = "false" then .flag false
  else match whole, Decimal.readDouble? cs with
    | some n, _ => .whole n
    | none, some d => if !d.isFinite && d.fraction != 0 then .notANumber else .real d
    | none, none => .pattern text

/-- The text of a value. -/
def text : FieldValue → String
  | .flag value => if value then "true" else "false"
  | .whole value => Json.Literal.intText value
  | .real value => Decimal.plainText value
  | .notANumber => "NaN"
  | .pattern text => text

end FieldValue

/-- A field that a span must have, perhaps with a value. -/
structure FieldTest where
  name : String
  value : Option FieldValue
deriving DecidableEq, Repr

namespace FieldTest

/-- Reads a name, an equals sign and a value; what follows a second equals sign is passed over. -/
def parse? (text : String) : Option FieldTest :=
  if text.isEmpty then none
  else match (Text.cutAt (· == '=') text.toList).map String.ofList with
    | name :: value :: _ => some ⟨name, some (.parse value)⟩
    | _ => some ⟨text, none⟩

/-- The text of a test. -/
def text (test : FieldTest) : String :=
  test.name ++ (test.value.map fun value => "=" ++ value.text).getD ""

end FieldTest

/-- The messages for which a directive holds. -/
structure Scope where
  /-- The module that writes the message. -/
  target : Option String := none
  /-- The span around the message. -/
  span : Option String := none
  fields : List FieldTest := []
deriving DecidableEq, Repr

/-- A level, and the messages for which it holds. -/
structure Directive where
  scope : Scope := {}
  level : Level
deriving DecidableEq, Repr

namespace Scope

/-- Whether a scope depends on the spans around a message. -/
def isDynamic (scope : Scope) : Bool := scope.span.isSome || !scope.fields.isEmpty

/-- Whether a scope can be decided without the values of fields and the names of spans. -/
def isStatic (scope : Scope) : Bool :=
  scope.span.isNone && scope.fields.all (·.value.isNone)

/-- The text of a scope; none if every message is in it. -/
def text? (scope : Scope) : Option String :=
  let fields :=
    if scope.fields.isEmpty then ""
    else "\x7b" ++ String.intercalate "," (scope.fields.map FieldTest.text) ++ "\x7d"
  let spans := if scope.isDynamic then some ("[" ++ scope.span.getD "" ++ fields ++ "]") else none
  match scope.target, spans with
  | none, none => none
  | target, spans => some (target.getD "" ++ spans.getD "")

end Scope

/-- The text of a directive. -/
def Directive.text (directive : Directive) : String :=
  match directive.scope.text? with
  | some scope => scope ++ "=" ++ directive.level.text
  | none => directive.level.text

/-- How far the reading of a directive has come; the numbers are where the open part begins. -/
inductive Stage where
  | start
  | levelOrTarget (first : Nat)
  | span (first : Nat)
  | field (first : Nat)
  | fields
  | scope
  | level (first : Nat)
deriving Repr

namespace Directive

/-- The characters of a text that begin at byte `first` or later, but before byte `last`. -/
def cut (text : List Char) (first last : Nat) : String :=
  let step (state : Nat × List Char) (c : Char) : Nat × List Char :=
    let kept := if first ≤ state.1 ∧ state.1 < last then c :: state.2 else state.2
    (state.1 + c.utf8Size, kept)
  String.ofList (text.foldl step (0, [])).2.reverse

/-- Whether a directive may begin with a character. -/
def mayBegin (c : Char) : Bool :=
  c == '-' || c == ':' || c == '_' || Unicode.alphanumeric.has c

/-- Takes a character at a place into account; the parts read so far are cut out of `text`. -/
def step (text : List Char) (state : Scope × Stage) (place : Nat) (c : Char) :
    Option (Scope × Stage) :=
  let (scope, stage) := state
  let part (first : Nat) : String := cut text first place
  match stage, c with
  | .start, '[' => some (scope, .span (place + 1))
  | .start, c => if mayBegin c then some (scope, .levelOrTarget place) else none
  | .levelOrTarget first, '=' =>
    some ({ scope with target := some (part first) }, .level (place + 1))
  | .levelOrTarget first, '[' =>
    some ({ scope with target := some (part first) }, .span (place + 1))
  | .levelOrTarget first, _ => some (scope, .levelOrTarget first)
  | .span first, ']' => some ({ scope with span := some (part first) }, .scope)
  | .span first, '{' =>
    let name := part first
    let span := if name.isEmpty then none else some name
    some ({ scope with span }, .field (place + 1))
  | .span first, _ => some (scope, .span first)
  | .field first, '}' =>
    (FieldTest.parse? (part first)).map fun test =>
      ({ scope with fields := scope.fields ++ [test] }, .fields)
  | .field first, _ => some (scope, .field first)
  | .fields, ']' => some (scope, .scope)
  | .fields, _ => none
  | .scope, '=' => some (scope, .level (place + 1))
  | .scope, _ => none
  | .level first, _ => some (scope, .level first)

/-- Takes characters into account, the first of which is at a place. -/
def steps (text : List Char) (state : Scope × Stage) (place : Nat) :
    List Char → Option (Scope × Stage)
  | [] => some state
  | c :: rest =>
    (step text state place c).bind fun state => steps text state (place + c.utf8Size) rest

/-- The directive that a text without commas gives; without a level everything is shown.

Blanks around it are passed over, but places count from its first character that is no blank, and
parts are cut from the text with its blanks. -/
def parse? (text : String) : Option Directive := do
  let cs := text.toList
  let (scope, stage) ← steps cs ({}, .start) 0 (Text.trimChars cs)
  let tail (first : Nat) : String := cut cs first text.utf8ByteSize
  match stage with
  | .levelOrTarget first =>
    match Level.parse? (tail first) with
    | some level => return ⟨scope, level⟩
    | none => return ⟨{ scope with target := some (tail first) }, .trace⟩
  | .level first =>
    if (tail first).isEmpty then return ⟨scope, .trace⟩
    else return ⟨scope, ← Level.parse? (tail first)⟩
  | .scope => return ⟨scope, .trace⟩
  | _ => none

end Directive

end ControlPlane.Log
