import ControlPlane.Error
import ControlPlane.Json.Basic
import ControlPlane.Ordered.Basic
import ControlPlane.Text.Blank

/-! Labels: the names of the proxy fleets that APIs are distributed to. -/

namespace ControlPlane

namespace Label

/-- The greatest number of bytes in a label. -/
def maxLength : Nat := 63

/-- A lower-case letter or a digit. -/
def isEdge (c : Char) : Bool := c.isLower || c.isDigit

/-- A character that may stand inside a label. -/
def isInner (c : Char) : Bool := isEdge c || c == '.' || c == '_' || c == '-'

/-- Letters and digits at both ends, and nothing but inner characters between them. -/
def isWord (cs : List Char) : Bool :=
  cs.all isInner && cs.head?.any isEdge && cs.getLast?.any isEdge

/-- The grammar of labels in their canonical form. -/
def Grammar (text : String) : Prop :=
  text.utf8ByteSize ≤ maxLength ∧ isWord text.toList = true

instance (text : String) : Decidable (Grammar text) := inferInstanceAs (Decidable (_ ∧ _))

/-- Why a text is not a label. -/
inductive Fault where
  | empty
  | tooLong (text : String)
  | badCharacters (text : String)
deriving DecidableEq, Repr

/-- The wording of a fault. -/
def Fault.message : Fault → String
  | .empty => "label cannot be empty"
  | .tooLong text => "label '" ++ text ++ "' exceeds 63 characters"
  | .badCharacters text =>
    "label '" ++ text ++ "' may only contain alphanumerics, '-', '_' and '.'"

end Label

/-- The name of a proxy fleet, in canonical form. -/
structure Label where
  text : String
  grammar : Label.Grammar text

namespace Label

instance : DecidableEq Label := fun a b =>
  decidable_of_iff (a.text = b.text) ⟨fun same => by cases a; cases b; simp_all, fun same => same ▸ rfl⟩

instance : Repr Label := ⟨fun label _ => repr label.text⟩

/-- Labels with the same text are the same label. -/
theorem ext {a b : Label} (same : a.text = b.text) : a = b := by cases a; cases b; simp_all

instance : LT Label := ⟨fun a b => a.text < b.text⟩

instance : DecidableLT Label := fun a b => inferInstanceAs (Decidable (a.text < b.text))

instance : StrictOrder Label where
  irrefl a := StrictOrder.irrefl a.text
  trans := StrictOrder.trans (α := String)
  connected notLess notGreater := ext (StrictOrder.connected notLess notGreater)

/-- The fleet of APIs that name none. -/
def default : Label := ⟨"default", by decide⟩

instance : Inhabited Label := ⟨default⟩

/-- The text that a raw label is read as. -/
def canonicalText (raw : String) : String := Text.toLowerAscii (Text.trim raw)

/-- Reads a label, in any case and with blanks around it. -/
def parse (raw : String) : Except Fault Label :=
  let text := canonicalText raw
  if text.isEmpty then .error .empty
  else if maxLength < text.utf8ByteSize then .error (.tooLong text)
  else if grammar : Grammar text then .ok ⟨text, grammar⟩
  else .error (.badCharacters text)

/-- The label that a document value denotes. -/
def ofJson? (value : Json) : Option Label := value.text?.bind fun raw => (parse raw).toOption

end Label

end ControlPlane
