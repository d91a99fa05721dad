import ControlPlane.Ordered.Basic

/-! Finite sets whose members are listed in ascending order. -/

namespace ControlPlane

/-- A finite set as the ascending list of its members. -/
structure OrderedSet (α : Type) [LT α] where
  items : List α
  ascending : items.Pairwise (· < ·)

namespace OrderedSet

variable {α : Type} [LT α]

instance [DecidableEq α] : DecidableEq (OrderedSet α) := fun a b =>
  decidable_of_iff (a.items = b.items) ⟨fun same => by cases a; cases b; simp_all, fun same => same ▸ rfl⟩

/-- The set without members. -/
def empty : OrderedSet α := ⟨[], ascending_nil α⟩

instance : Inhabited (OrderedSet α) := ⟨empty⟩

/-- The set of one member. -/
def singleton (a : α) : OrderedSet α := ⟨[a], List.pairwise_singleton _ _⟩

instance : Membership α (OrderedSet α) := ⟨fun set a => a ∈ set.items⟩

instance [DecidableEq α] (a : α) (set : OrderedSet α) : Decidable (a ∈ set) :=
  inferInstanceAs (Decidable (a ∈ set.items))

/-- Puts a value at its place in an ascending list that may hold it already. -/
def place [DecidableLT α] (a : α) : List α → List α
  | [] => [a]
  | b :: rest =>
    if a < b then a :: b :: rest
    else if b < a then b :: place a rest
    else b :: rest

/-- A placed value joins the members. -/
theorem mem_place [DecidableLT α] [StrictOrder α] {a c : α} {items : List α} :
    c ∈ place a items ↔ c = a ∨ c ∈ items := by
  induction items with
  | nil => simp [place]
  | cons b rest ih =>
    unfold place
    split
    · simp
    · rename_i notLess
      split
      · simp only [List.mem_cons, ih]
        constructor <;> rintro (h | h | h) <;> simp [h]
      · rename_i notGreater
        have same := StrictOrder.connected notLess notGreater
        subst same
        simp

/-- Placing keeps a list ascending. -/
theorem place_ascending [DecidableLT α] [StrictOrder α] (a : α) {items : List α}
    (ascending : items.Pairwise (· < ·)) : (place a items).Pairwise (· < ·) := by
  induction items with
  | nil => simp [place]
  | cons b rest ih =>
    obtain ⟨below, tail⟩ := List.pairwise_cons.mp ascending
    unfold place
    split
    · rename_i less
      refine List.pairwise_cons.mpr ⟨fun c member => ?_, ascending⟩
      rcases List.mem_cons.mp member with same | member
      · exact same ▸ less
      · exact StrictOrder.trans less (below c member)
    · split
      · rename_i greater
        refine List.pairwise_cons.mpr ⟨fun c member => ?_, ih tail⟩
        rcases mem_place.mp member with same | member
        · exact same ▸ greater
        · exact below c member
      · exact ascending

/-- A set with one more member. -/
def insert [DecidableLT α] [StrictOrder α] (a : α) (set : OrderedSet α) : OrderedSet α :=
  ⟨place a set.items, place_ascending a set.ascending⟩

/-- The set of the values in a list. -/
def ofList [DecidableLT α] [StrictOrder α] (values : List α) : OrderedSet α :=
  values.foldl (fun set a => set.insert a) empty

/-- The members of two sets together. -/
def union [DecidableLT α] [StrictOrder α] (left right : OrderedSet α) : OrderedSet α :=
  right.items.foldl (fun set a => set.insert a) left

@[simp] theorem mem_insert [DecidableLT α] [StrictOrder α] {a c : α} {set : OrderedSet α} :
    c ∈ set.insert a ↔ c = a ∨ c ∈ set := mem_place

theorem mem_foldl_insert [DecidableLT α] [StrictOrder α] {c : α} {values : List α}
    {set : OrderedSet α} :
    c ∈ values.foldl (fun set a => set.insert a) set ↔ c ∈ set ∨ c ∈ values := by
  induction values generalizing set with
  | nil => simp
  | cons a rest ih =>
    rw [List.foldl_cons, ih, mem_insert, List.mem_cons, or_assoc, or_left_comm]

@[simp] theorem mem_ofList [DecidableLT α] [StrictOrder α] {c : α} {values : List α} :
    c ∈ ofList values ↔ c ∈ values := by
  unfold ofList
  rw [mem_foldl_insert]
  constructor
  · rintro (h | h)
    · exact absurd h List.not_mem_nil
    · exact h
  · exact Or.inr

@[simp] theorem mem_union [DecidableLT α] [StrictOrder α] {c : α} {left right : OrderedSet α} :
    c ∈ left.union right ↔ c ∈ left ∨ c ∈ right := mem_foldl_insert

/-- Ascending lists with the same members are the same list. -/
theorem eq_of_mem_iff [StrictOrder α] {left right : List α} (leftAscending : left.Pairwise (· < ·))
    (rightAscending : right.Pairwise (· < ·)) (same : ∀ a, a ∈ left ↔ a ∈ right) :
    left = right := by
  induction left generalizing right with
  | nil =>
    cases right with
    | nil => rfl
    | cons b rest => exact absurd ((same b).mpr List.mem_cons_self) List.not_mem_nil
  | cons a rest ih =>
    obtain ⟨aBelow, restAscending⟩ := List.pairwise_cons.mp leftAscending
    cases right with
    | nil => exact absurd ((same a).mp List.mem_cons_self) List.not_mem_nil
    | cons b others =>
      obtain ⟨bBelow, othersAscending⟩ := List.pairwise_cons.mp rightAscending
      -- The least member of either list is the least member of the other.
      have heads : a = b := by
        rcases List.mem_cons.mp ((same a).mp List.mem_cons_self) with h | h
        · exact h
        · rcases List.mem_cons.mp ((same b).mpr List.mem_cons_self) with k | k
          · exact k.symm
          · exact absurd (bBelow a h) (StrictOrder.not_gt_of_lt (aBelow b k))
      subst heads
      congr 1
      refine ih restAscending othersAscending fun c => ⟨fun member => ?_, fun member => ?_⟩
      · rcases List.mem_cons.mp ((same c).mp (List.mem_cons_of_mem _ member)) with h | h
        · exact absurd h (StrictOrder.ne_of_gt (aBelow c member))
        · exact h
      · rcases List.mem_cons.mp ((same c).mpr (List.mem_cons_of_mem _ member)) with h | h
        · exact absurd h (StrictOrder.ne_of_gt (bBelow c member))
        · exact h

/-- Sets with the same members are the same set. -/
theorem ext [StrictOrder α] {left right : OrderedSet α} (same : ∀ a, a ∈ left ↔ a ∈ right) :
    left = right := by
  have items := eq_of_mem_iff left.ascending right.ascending same
  cases left; cases right; simp_all

/-- Two lists have the same set exactly if they have the same members. -/
theorem ofList_eq_ofList_iff [DecidableLT α] [StrictOrder α] {first second : List α} :
    ofList first = ofList second ↔ ∀ a, a ∈ first ↔ a ∈ second := by
  constructor
  · intro same a
    rw [← mem_ofList, same, mem_ofList]
  · intro same
    refine ext fun a => ?_
    rw [mem_ofList, mem_ofList, same]

end OrderedSet

end ControlPlane
