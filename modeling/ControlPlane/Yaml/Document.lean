import ControlPlane.Yaml.Core
import ControlPlane.Yaml.Node

/-! The value that a YAML text denotes, with aliases replaced by what they refer to. -/

namespace ControlPlane.Yaml

/-- What the reading of one document may refer to. -/
structure Scope where
  /-- The nodes that bear an anchor number; of those with one number, the first counts. -/
  targets : List (Nat × Node)
  /-- How many aliases may be followed in all. -/
  budget : Nat

/-- A computation that counts the aliases followed so far and may refuse the document. -/
abbrev Resolving := StateT Nat Option

/-- Whether a tag is local, which no document value can carry. -/
def isLocalTag (tag : Option String) : Bool := (tag.map (·.startsWith "!")).getD false

/-- The node that an alias refers to. -/
def follow (scope : Scope) (target : Nat) : Resolving Node := do
  let count ← get
  if scope.budget ≤ count then failure
  set (count + 1)
  match scope.targets.lookup target with
  | some n => return n
  | none => failure

/-- The text of a key, which must be a scalar. -/
def keyText (scope : Scope) : Node → Resolving String
  | .scalar _ _ _ text => return text
  | .alias target => do
    match ← follow scope target with
    | .scalar _ _ _ text => return text
    | _ => failure
  | _ => failure

/-- The value of a scalar. -/
def scalarValue (tag : Option String) (plain : Bool) (text : String) : Option Json :=
  if isLocalTag tag then none
  else match tag with
    | some tag => taggedValue? tag text
    | none => if plain then plainValue? text else some (.str text)

/-- The value of a node whose collections are nested at most `depth` deep. -/
def valueWithin (scope : Scope) : Nat → Node → Resolving Json
  | depth, n => do
    let n ← (match n with
      | .alias target => follow scope target
      | n => pure n : Resolving Node)
    match n, depth with
    | .scalar _ tag plain text, _ => scalarValue tag plain text
    | .sequence _ tag items, depth + 1 =>
      if isLocalTag tag then failure
      return .arr (← items.mapM (valueWithin scope depth))
    | .mapping _ tag entries, depth + 1 =>
      if isLocalTag tag then failure
      let pairs ← entries.mapM fun (key, value) => do
        let key ← keyText scope key
        return (key, ← valueWithin scope depth value)
      return .obj (Json.ofPairs pairs)
    | _, _ => failure

/-- The value that a YAML text denotes; a text without any content denotes null. -/
def parse? (text : String) : Option Json := do
  let tokens ← tokens? text
  match ← Composer.document? tokens with
  | none => return .null
  | some root =>
    let scope : Scope := ⟨root.anchored [], root.events * 100⟩
    let (value, _) ← (valueWithin scope maxDepth root).run 0
    return value

end ControlPlane.Yaml
