import ControlPlane.Label

/-! Proxies as they introduce themselves, and the label that each belongs to. -/

namespace ControlPlane

/-- What a proxy says about itself. -/
structure Node where
  id : String
  cluster : String
  metadata : List (String × Json)

namespace Node

/-- The key of the metadata under which a proxy names its label. -/
def labelKey : String := "label"

/-- The texts that may name the label: in the metadata, and then the proxy's cluster. -/
def candidates (node : Node) : List String :=
  (((Json.lookup labelKey node.metadata).bind Json.text?).toList ++ [node.cluster]).filter
    fun text => !(Text.trim text).isEmpty

/-- The first label that a proxy names well. -/
def label? (node : Node) : Option Label :=
  node.candidates.findSome? fun text => (Label.parse text).toOption

/-- The label of a proxy that may have said nothing about itself. -/
def labelOf (node : Option Node) : Label := (node.bind label?).getD .default

end Node

end ControlPlane
