import ControlPlane.Json.Basic

/-! Shapes: tests of whether a document value has the form that a format prescribes. -/

namespace ControlPlane.Document

/-- A test of a document value. -/
abbrev Shape := Json → Bool

namespace Shape

/-- Every value. -/
def anything : Shape := fun _ => true

/-- A string. -/
def text : Shape
  | .str _ => true
  | _ => false

/-- A boolean. -/
def flag : Shape
  | .bool _ => true
  | _ => false

/-- Any number. -/
def number : Shape
  | .num _ => true
  | _ => false

/-- A whole number of 64 bits with a sign. -/
def integer : Shape
  | .num (.int i) => decide (i < Int.pow 2 63)
  | _ => false

/-- A whole number that is not negative. -/
def count : Shape := fun value => value.nat?.isSome

/-- One of some words. -/
def word (words : List String) : Shape
  | .str text => words.contains text
  | _ => false

/-- A value of a shape, or null. -/
def orNull (shape : Shape) : Shape
  | .null => true
  | value => shape value

/-- A list of values of a shape. -/
def list (shape : Shape) : Shape
  | .arr items => items.all shape
  | _ => false

/-- An object whose values have a shape. -/
def table (shape : Shape) : Shape
  | .obj fields => fields.all fun (_, value) => shape value
  | _ => false

/-- An object that refers to another place. -/
def reference : Shape
  | .obj fields => (Json.lookup "$ref" fields).any text
  | _ => false

/-- A value of a shape, or a reference to one. -/
def orReference (shape : Shape) : Shape := fun value => reference value || shape value

/-- A value of any of some shapes. -/
def any (shapes : List Shape) : Shape := fun value => shapes.any (· value)

/-- A value of all of some shapes. -/
def all (shapes : List Shape) : Shape := fun value => shapes.all (· value)

/-- An object whose field, if it is there, has a shape. -/
def optional (key : String) (shape : Shape) : Shape
  | .obj fields => (Json.lookup key fields).all shape
  | _ => false

/-- An object whose field is there and has a shape. -/
def required (key : String) (shape : Shape) : Shape
  | .obj fields => (Json.lookup key fields).any shape
  | _ => false

/-- An object of which the first field with one of some keys has the shape for that key. -/
def firstOf (choices : List (String × Shape)) : Shape
  | .obj fields =>
    (fields.findSome? fun (key, value) => (Json.lookup key choices).map (· value)).getD false
  | _ => false

end Shape

end ControlPlane.Document
