import ControlPlane.Label
import ControlPlane.Ordered.Set

/-! The set of labels of one API, which is never empty. -/

namespace ControlPlane

/-- A set of labels with at least one member. -/
structure Labels where
  set : OrderedSet Label
  nonempty : set.items ≠ []

namespace Labels

instance : DecidableEq Labels := fun a b =>
  decidable_of_iff (a.set = b.set) ⟨fun same => by cases a; cases b; simp_all, fun same => same ▸ rfl⟩

/-- The set of the default label alone. -/
def default : Labels := ⟨.singleton .default, by simp [OrderedSet.singleton]⟩

instance : Inhabited Labels := ⟨default⟩

/-- The labels in ascending order. -/
def toList (labels : Labels) : List Label := labels.set.items

instance : Membership Label Labels := ⟨fun labels label => label ∈ labels.set⟩

instance (label : Label) (labels : Labels) : Decidable (label ∈ labels) :=
  inferInstanceAs (Decidable (label ∈ labels.set))

/-- A set of labels, with the default label in place of none. -/
def ofSet (set : OrderedSet Label) : Labels :=
  if nonempty : set.items ≠ [] then ⟨set, nonempty⟩ else default

/-- The set of the labels in a list. -/
def ofList (labels : List Label) : Labels := ofSet (.ofList labels)

/-- Why a document value is not a set of labels. -/
inductive Fault where
  | label (fault : Label.Fault)
  | entryKind (kind : String)
  | valueKind (kind : String)
deriving DecidableEq, Repr

/-- The wording of a fault. -/
def Fault.message : Fault → String
  | .label fault => fault.message
  | .entryKind kind => "label entries must be strings, found " ++ kind
  | .valueKind kind => "labels must be a string or a list of strings, found " ++ kind

/-- The label that a text denotes. -/
def parseLabel (raw : String) : Except Fault Label :=
  match Label.parse raw with
  | .ok label => .ok label
  | .error fault => .error (.label fault)

/-- The label that an item of a list denotes. -/
def ofItem : Json → Except Fault Label
  | .str raw => parseLabel raw
  | item => .error (.entryKind item.kind)

/-- The labels that a value declares: one text, a list of texts, or nothing. -/
def ofValue : Option Json → Except Fault Labels
  | none | some .null => .ok default
  | some (.str raw) => (parseLabel raw).map fun label => ofList [label]
  | some (.arr items) => (items.mapM ofItem).map ofList
  | some value => .error (.valueKind value.kind)

end Labels

end ControlPlane
