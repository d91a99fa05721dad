import ControlPlane.Decimal.Double

/-! Values of a document: the six JSON kinds, with objects that remember the order of their keys. -/

namespace ControlPlane

/-- A number of a document: a whole number of 64 bits, signed or not, or else a double. -/
inductive Number where
  | int (value : Int)
  | real (value : Double)
deriving DecidableEq, Repr

/-- A document value. -/
inductive Json where
  | null
  | bool (value : Bool)
  | num (value : Number)
  | str (value : String)
  | arr (items : List Json)
  | obj (fields : List (String × Json))
deriving Repr, BEq, Inhabited

namespace Json

/-- The value stored under a key. -/
def lookup {α : Type} (key : String) : List (String × α) → Option α
  | [] => none
  | (k, v) :: rest => if k = key then some v else lookup key rest

/-- Stores a value under a key: in the place of the key if it is there, else at the end. -/
def store {α : Type} (key : String) (value : α) : List (String × α) → List (String × α)
  | [] => [(key, value)]
  | (k, v) :: rest => if k = key then (k, value) :: rest else (k, v) :: store key value rest

/-- The pairs with each key once: at its first position, with its last value. -/
def ofPairs {α : Type} (pairs : List (String × α)) : List (String × α) :=
  pairs.foldl (fun fields (k, v) => store k v fields) []

/-- The fields of an object. -/
def fields? : Json → Option (List (String × Json))
  | .obj fields => some fields
  | _ => none

/-- The items of an array. -/
def items? : Json → Option (List Json)
  | .arr items => some items
  | _ => none

/-- The text of a string value. -/
def text? : Json → Option String
  | .str s => some s
  | _ => none

/-- The whole number that is not negative, if the value is one. -/
def nat? : Json → Option Nat
  | .num (.int i) => if 0 ≤ i then some i.toNat else none
  | _ => none

/-- The value of an object's field. -/
def field? (key : String) (value : Json) : Option Json := value.fields?.bind (lookup key)

/-- The word for the kind of a value. -/
def kind : Json → String
  | .null => "null"
  | .bool _ => "boolean"
  | .num _ => "number"
  | .str _ => "string"
  | .arr _ => "array"
  | .obj _ => "object"

mutual
/-- How deep arrays and objects are nested in a value. -/
def depth : Json → Nat
  | .arr items => depthOfItems items + 1
  | .obj fields => depthOfFields fields + 1
  | _ => 0
/-- The greatest depth among items. -/
def depthOfItems : List Json → Nat
  | [] => 0
  | item :: rest => max item.depth (depthOfItems rest)
/-- The greatest depth among field values. -/
def depthOfFields : List (String × Json) → Nat
  | [] => 0
  | (_, value) :: rest => max value.depth (depthOfFields rest)
end

/-- A key that was just stored holds the stored value. -/
theorem lookup_store_self {α : Type} (key : String) (value : α) (fields : List (String × α)) :
    lookup key (store key value fields) = some value := by
  induction fields with
  | nil => simp [store, lookup]
  | cons entry rest ih =>
    by_cases same : entry.1 = key <;> simp [store, lookup, same, ih]

/-- Storing under one key leaves every other key alone. -/
theorem lookup_store_of_ne {α : Type} {key other : String} (distinct : key ≠ other) (value : α)
    (fields : List (String × α)) :
    lookup other (store key value fields) = lookup other fields := by
  induction fields with
  | nil => simp [store, lookup, distinct]
  | cons entry rest ih =>
    by_cases same : entry.1 = key
    · have apart : entry.1 ≠ other := same ▸ distinct
      simp [store, lookup, same, distinct]
    · simp [store, lookup, same, ih]

end Json

end ControlPlane
