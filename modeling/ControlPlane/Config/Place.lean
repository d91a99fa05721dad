import ControlPlane.Decimal.Reader
import ControlPlane.Json.Basic

/-! Places in a nest of settings, and storing a value at one. -/

namespace ControlPlane.Config

/-- A step into a setting: to a field of a table, or to an item of a list.

A negative position counts from the end. -/
inductive Step where
  | field (name : String)
  | item (position : Int)
deriving DecidableEq, Repr

/-- Where a setting is, from the outermost table on. -/
abbrev Place := List Step

namespace Place

/-- Whether a character may stand in the name of a field. -/
def isNameChar (c : Char) : Bool := c.isAlphanum || c == '_' || c == '-'

/-- The name of a field at the head of a text, and the text after it. -/
def name? (cs : List Char) : Option (Step × List Char) :=
  let name := cs.takeWhile isNameChar
  if name.isEmpty then none else some (.field (String.ofList name), cs.dropWhile isNameChar)

/-- The position of an item, which has 64 bits. -/
def position? (cs : List Char) : Option Step := do
  let digits := match cs with
    | '-' :: rest => rest
    | _ => cs
  if !digits.all Char.isDigit then none
  else
    let n ← Decimal.readInt? cs
    if -(Int.pow 2 63) ≤ n ∧ n < Int.pow 2 63 then some (.item n) else none

/-- The steps after the first: a point and a name, or a position in brackets.

The fuel is the length of the text. -/
def steps? : Nat → List Char → Option Place
  | _, [] => some []
  | fuel + 1, '.' :: rest => do
    let (step, rest) ← name? rest
    return step :: (← steps? fuel rest)
  | fuel + 1, '[' :: rest => do
    let step ← position? (rest.takeWhile (· != ']'))
    match rest.dropWhile (· != ']') with
    | _ :: rest => return step :: (← steps? fuel rest)
    | [] => none
  | _, _ => none

/-- The place that a text describes. -/
def parse? (text : String) : Option Place := do
  let (step, rest) ← name? text.toList
  return step :: (← steps? rest.length rest)

/-- The place of a key; a key that describes no place is itself the name of a field. -/
def ofKey (key : String) : Place := (parse? key).getD [.field key]

end Place

mutual
/-- A setting after a value was stored there: fields are merged into a table that is there. -/
def merge (old : Option Json) : Json → Json
  | .obj fields => .obj (mergeFields ((old.bind Json.fields?).getD []) fields)
  | value => value
/-- A table after fields were merged into it. -/
def mergeFields (table : List (String × Json)) : List (String × Json) → List (String × Json)
  | [] => table
  | (key, value) :: rest =>
    mergeFields (Json.store key (merge (Json.lookup key table) value) table) rest
end

/-- A list with a value at a position; nulls fill it up to there, at its front or its end. -/
def putItem (position : Int) (change : Option Json → Json) (items : List Json) : List Json :=
  let index : Int := if 0 ≤ position then position else items.length + position
  if index < 0 then
    change (some .null) :: (List.replicate ((-index).toNat - 1) .null ++ items)
  else
    let filled := items ++ List.replicate (index.toNat + 1 - items.length) .null
    filled.modify index.toNat fun item => change (some item)

/-- A setting after a value was stored at a place inside it.

What is in the way becomes a table or a list, as the place asks. -/
def put (value : Json) : Place → Option Json → Json
  | [], old => merge old value
  | .field name :: rest, old =>
    let table := (old.bind Json.fields?).getD []
    .obj (Json.store name (put value rest (Json.lookup name table)) table)
  | .item position :: rest, old =>
    .arr (putItem position (put value rest) ((old.bind Json.items?).getD []))

end ControlPlane.Config
