import ControlPlane.Ordered.Basic

/-! Finite maps whose entries are listed by ascending key. -/

namespace ControlPlane

/-- A finite map as the list of its entries by ascending key. -/
structure OrderedMap (κ α : Type) [LT κ] where
  entries : List (κ × α)
  ascending : (entries.map Prod.fst).Pairwise (· < ·)

namespace OrderedMap

variable {κ α : Type} [LT κ]

/-- The map without entries. -/
def empty : OrderedMap κ α := ⟨[], ascending_nil κ⟩

instance : Inhabited (OrderedMap κ α) := ⟨empty⟩

/-- The keys in ascending order. -/
def keys (map : OrderedMap κ α) : List κ := map.entries.map Prod.fst

/-- The values in the order of their keys. -/
def values (map : OrderedMap κ α) : List α := map.entries.map Prod.snd

/-- The value that a list of entries holds under a key. -/
def find? [DecidableEq κ] (key : κ) : List (κ × α) → Option α
  | [] => none
  | (k, value) :: rest => if k = key then some value else find? key rest

/-- The value under a key. -/
def get? [DecidableEq κ] (map : OrderedMap κ α) (key : κ) : Option α := find? key map.entries

/-- Whether a key has a value. -/
def has [DecidableEq κ] (map : OrderedMap κ α) (key : κ) : Bool := (map.get? key).isSome

/-- Puts an entry at its place among entries by ascending key, in place of one with the same key. -/
def place [DecidableLT κ] (key : κ) (value : α) : List (κ × α) → List (κ × α)
  | [] => [(key, value)]
  | (k, v) :: rest =>
    if key < k then (key, value) :: (k, v) :: rest
    else if k < key then (k, v) :: place key value rest
    else (key, value) :: rest

theorem mem_keys_place [DecidableLT κ] {key : κ} {value : α} {entries : List (κ × α)} {k : κ}
    (member : k ∈ (place key value entries).map Prod.fst) : k = key ∨ k ∈ entries.map Prod.fst := by
  induction entries with
  | nil => simpa [place] using member
  | cons entry rest ih =>
    unfold place at member
    split at member
    · simpa using member
    · split at member
      · rcases List.mem_cons.mp (List.map_cons ▸ member) with h | h
        · exact Or.inr (List.mem_cons.mpr (Or.inl h))
        · rcases ih h with h | h
          · exact Or.inl h
          · exact Or.inr (List.mem_cons_of_mem _ h)
      · rcases List.mem_cons.mp (List.map_cons ▸ member) with h | h
        · exact Or.inl h
        · exact Or.inr (List.mem_cons_of_mem _ h)

theorem place_ascending [DecidableLT κ] [StrictOrder κ] (key : κ) (value : α)
    {entries : List (κ × α)} (ascending : (entries.map Prod.fst).Pairwise (· < ·)) :
    ((place key value entries).map Prod.fst).Pairwise (· < ·) := by
  induction entries with
  | nil => simp [place]
  | cons entry rest ih =>
    obtain ⟨below, tail⟩ := List.pairwise_cons.mp ascending
    unfold place
    split
    · rename_i less
      refine List.pairwise_cons.mpr ⟨fun k member => ?_, ascending⟩
      rcases List.mem_cons.mp member with same | member
      · exact same ▸ less
      · exact StrictOrder.trans less (below k member)
    · rename_i notLess
      split
      · rename_i greater
        refine List.pairwise_cons.mpr ⟨fun k member => ?_, ih tail⟩
        rcases mem_keys_place member with same | member
        · exact same ▸ greater
        · exact below k member
      · rename_i notGreater
        have same := StrictOrder.connected notLess notGreater
        exact List.pairwise_cons.mpr ⟨fun k member => same ▸ below k member, tail⟩

/-- The map with a value under a key, whatever it held there. -/
def insert [DecidableLT κ] [StrictOrder κ] (map : OrderedMap κ α) (key : κ) (value : α) :
    OrderedMap κ α :=
  ⟨place key value map.entries, place_ascending key value map.ascending⟩

/-- The map without the entry of a key. -/
def erase [DecidableEq κ] (map : OrderedMap κ α) (key : κ) : OrderedMap κ α :=
  ⟨map.entries.filter (·.1 ≠ key), by
    have kept : ((map.entries.filter (·.1 ≠ key)).map Prod.fst) =
        (map.entries.map Prod.fst).filter (· ≠ key) := by
      rw [List.filter_map]; rfl
    rw [kept]
    exact map.ascending.filter _⟩

/-- The map of the entries in a list; the last one of a key counts. -/
def ofList [DecidableLT κ] [StrictOrder κ] (entries : List (κ × α)) : OrderedMap κ α :=
  entries.foldl (fun map entry => map.insert entry.1 entry.2) empty

theorem find?_place [DecidableEq κ] [DecidableLT κ] [StrictOrder κ] (key other : κ) (value : α)
    (entries : List (κ × α)) :
    find? other (place key value entries) = if key = other then some value else find? other entries := by
  induction entries with
  | nil => simp [place, find?]
  | cons entry rest ih =>
    unfold place
    split
    · simp [find?]
    · rename_i notLess
      split
      · rename_i greater
        simp only [find?, ih]
        split <;> split <;> simp_all
      · rename_i notGreater
        have same := StrictOrder.connected notLess notGreater
        simp only [find?, ← same]
        split <;> rfl

/-- An inserted value is found under its key and no other. -/
theorem get?_insert [DecidableEq κ] [DecidableLT κ] [StrictOrder κ] (map : OrderedMap κ α)
    (key other : κ) (value : α) :
    (map.insert key value).get? other = if key = other then some value else map.get? other :=
  find?_place key other value map.entries

omit [LT κ] in
theorem find?_filter [DecidableEq κ] (key other : κ) (entries : List (κ × α)) :
    find? other (entries.filter (·.1 ≠ key)) = if key = other then none else find? other entries := by
  induction entries with
  | nil => simp [find?]
  | cons entry rest ih =>
    by_cases erased : entry.1 = key
    · rw [List.filter_cons_of_neg (by simp [erased]), ih]
      split
      · rfl
      · rename_i apart
        simp [find?, erased, apart]
    · rw [List.filter_cons_of_pos (by simp [erased])]
      simp only [find?, ih]
      split
      · rename_i here
        rw [if_neg fun same => erased (here.trans same.symm)]
      · rfl

/-- An erased key holds nothing, and every other key what it held before. -/
theorem get?_erase [DecidableEq κ] (map : OrderedMap κ α) (key other : κ) :
    (map.erase key).get? other = if key = other then none else map.get? other :=
  find?_filter key other map.entries

/-- What a map holds after an erasure it held before. -/
theorem get?_of_get?_erase [DecidableEq κ] {map : OrderedMap κ α} {key other : κ} {value : α}
    (found : (map.erase key).get? other = some value) : map.get? other = some value := by
  rw [get?_erase] at found
  split at found
  · cases found
  · exact found

@[simp] theorem get?_empty [DecidableEq κ] (key : κ) : (empty : OrderedMap κ α).get? key = none := rfl

theorem find?_eq_some_of_mem [DecidableEq κ] [StrictOrder κ] {key : κ} {value : α}
    {entries : List (κ × α)} (ascending : (entries.map Prod.fst).Pairwise (· < ·))
    (member : (key, value) ∈ entries) : find? key entries = some value := by
  induction entries with
  | nil => exact absurd member List.not_mem_nil
  | cons entry rest ih =>
    obtain ⟨below, tail⟩ := List.pairwise_cons.mp ascending
    rcases List.mem_cons.mp member with same | member
    · simp [find?, ← same]
    · have apart := StrictOrder.ne_of_lt (below key (List.mem_map.mpr ⟨_, member, rfl⟩))
      simp [find?, apart, ih tail member]

omit [LT κ] in
theorem mem_of_find?_eq_some [DecidableEq κ] {key : κ} {value : α} {entries : List (κ × α)}
    (found : find? key entries = some value) : (key, value) ∈ entries := by
  induction entries with
  | nil => simp [find?] at found
  | cons entry rest ih =>
    unfold find? at found
    split at found
    · rename_i same
      cases found
      exact List.mem_cons.mpr (Or.inl (by rw [← same]))
    · exact List.mem_cons_of_mem _ (ih found)

/-- A map holds exactly the listed entries. -/
theorem get?_eq_some_iff [DecidableEq κ] [StrictOrder κ] {map : OrderedMap κ α} {key : κ}
    {value : α} : map.get? key = some value ↔ (key, value) ∈ map.entries :=
  ⟨mem_of_find?_eq_some, find?_eq_some_of_mem map.ascending⟩

omit [LT κ] in
theorem find?_eq_none_iff [DecidableEq κ] {key : κ} {entries : List (κ × α)} :
    find? key entries = none ↔ key ∉ entries.map Prod.fst := by
  induction entries with
  | nil => simp [find?]
  | cons entry rest ih =>
    unfold find?
    split
    · rename_i same; simp [same]
    · rename_i apart
      rw [ih]
      simp [Ne.symm apart]

/-- Lists by ascending key that hold the same value under every key are the same list. -/
theorem eq_of_find?_eq [DecidableEq κ] [StrictOrder κ] {left right : List (κ × α)}
    (leftAscending : (left.map Prod.fst).Pairwise (· < ·))
    (rightAscending : (right.map Prod.fst).Pairwise (· < ·))
    (same : ∀ key, find? key left = find? key right) : left = right := by
  induction left generalizing right with
  | nil =>
    cases right with
    | nil => rfl
    | cons entry rest => have := same entry.1; simp [find?] at this
  | cons a rest ih =>
    obtain ⟨aBelow, restAscending⟩ := List.pairwise_cons.mp leftAscending
    cases right with
    | nil => have := same a.1; simp [find?] at this
    | cons b others =>
      obtain ⟨bBelow, othersAscending⟩ := List.pairwise_cons.mp rightAscending
      have aFound : find? a.1 (b :: others) = some a.2 := by rw [← same]; simp [find?]
      have bFound : find? b.1 (a :: rest) = some b.2 := by rw [same]; simp [find?]
      have aMember := mem_of_find?_eq_some aFound
      have bMember := mem_of_find?_eq_some bFound
      -- The entry with the least key is the head on both sides.
      have heads : a = b := by
        rcases List.mem_cons.mp aMember with h | h
        · exact h
        · rcases List.mem_cons.mp bMember with k | k
          · exact k.symm
          · exact absurd (bBelow a.1 (List.mem_map.mpr ⟨_, h, rfl⟩))
              (StrictOrder.not_gt_of_lt (aBelow b.1 (List.mem_map.mpr ⟨_, k, rfl⟩)))
      subst heads
      congr 1
      refine ih restAscending othersAscending fun key => ?_
      by_cases here : a.1 = key
      · have absent {tail : List (κ × α)} (below : ∀ k ∈ tail.map Prod.fst, a.1 < k) :
            find? key tail = none :=
          find?_eq_none_iff.mpr fun member => StrictOrder.irrefl key (here ▸ below key member)
        rw [absent aBelow, absent bBelow]
      · have := same key
        simpa [find?, here] using this

/-- Maps that hold the same value under every key are the same map. -/
theorem ext [DecidableEq κ] [StrictOrder κ] {left right : OrderedMap κ α}
    (same : ∀ key, left.get? key = right.get? key) : left = right := by
  have entries := eq_of_find?_eq left.ascending right.ascending same
  cases left; cases right; simp_all

end OrderedMap

end ControlPlane
