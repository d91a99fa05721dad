import ControlPlane.Json.Basic

/-! Values of a TOML document. -/

namespace ControlPlane

/-- A value of a TOML document. -/
inductive Toml where
  | text (value : String)
  | int (value : Int)
  | real (value : Double)
  | bool (value : Bool)
  /-- A date, a time, or both, in canonical form. -/
  | moment (written : String)
  | list (items : List Toml)
  | table (fields : List (String × Toml))
deriving Repr, BEq, Inhabited

namespace Toml

/-- The fields of a table. -/
def fields? : Toml → Option (List (String × Toml))
  | .table fields => some fields
  | _ => none

/-- The characters of a text value. -/
def text? : Toml → Option String
  | .text value => some value
  | _ => none

mutual
/-- The document value that holds the same; dates and times become texts. -/
def toJson : Toml → Json
  | .text value => .str value
  | .int value => .num (.int value)
  | .real value => .num (.real value)
  | .bool value => .bool value
  | .moment written => .str written
  | .list items => .arr (itemsToJson items)
  | .table fields => .obj (fieldsToJson fields)
/-- The document values of items. -/
def itemsToJson : List Toml → List Json
  | [] => []
  | item :: rest => item.toJson :: itemsToJson rest
/-- The document values of fields. -/
def fieldsToJson : List (String × Toml) → List (String × Json)
  | [] => []
  | (key, value) :: rest => (key, value.toJson) :: fieldsToJson rest
end

end Toml

end ControlPlane
