/-! Strict total orders, by which sets and maps sort their keys. -/

namespace ControlPlane

/-- An order in which any two different values stand in exactly one of two ways. -/
class StrictOrder (α : Type) [LT α] : Prop where
  irrefl : ∀ a : α, ¬a < a
  trans : ∀ {a b c : α}, a < b → b < c → a < c
  connected : ∀ {a b : α}, ¬a < b → ¬b < a → a = b

/-- No values at all are in ascending order. -/
theorem ascending_nil (α : Type) [LT α] : ([] : List α).Pairwise (· < ·) := List.Pairwise.nil

/-- Texts are ordered by their characters. -/
instance : StrictOrder String where
  irrefl := String.lt_irrefl
  trans := String.lt_trans
  connected := fun notLess notGreater =>
    String.le_antisymm (String.not_lt.mp notGreater) (String.not_lt.mp notLess)

namespace StrictOrder

variable {α : Type} [LT α] [StrictOrder α]

/-- A smaller value is a different one. -/
theorem ne_of_lt {a b : α} (less : a < b) : a ≠ b := fun same => irrefl b (same ▸ less)

/-- A greater value is a different one. -/
theorem ne_of_gt {a b : α} (less : a < b) : b ≠ a := fun same => irrefl b (same ▸ less)

/-- No two values are below each other. -/
theorem not_gt_of_lt {a b : α} (less : a < b) : ¬b < a := fun greater =>
  irrefl a (trans less greater)

end StrictOrder

end ControlPlane
