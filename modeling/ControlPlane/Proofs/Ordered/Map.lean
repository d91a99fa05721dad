import ControlPlane.Ordered.Map

/-! The values of a map as a list: which they are, and which of them a change leaves in place. -/

namespace ControlPlane.OrderedMap

variable {κ α : Type} [LT κ] [DecidableEq κ] [StrictOrder κ]

/-- The values are those that some key has. -/
theorem mem_values {map : OrderedMap κ α} {value : α} :
    value ∈ map.values ↔ ∃ key, map.get? key = some value := by
  -- A value is listed with its key.
  simp [values, get?_eq_some_iff]

/-- The keys are those that have a value. -/
theorem mem_keys {map : OrderedMap κ α} {key : κ} :
    key ∈ map.keys ↔ ∃ value, map.get? key = some value := by
  simp [keys, get?_eq_some_iff]

omit [DecidableEq κ] in
/-- No key is listed twice. -/
theorem nodup_keys (map : OrderedMap κ α) : map.keys.Nodup :=
  map.ascending.imp fun less => StrictOrder.ne_of_lt less

/-- Maps that have values under the same keys list the same keys. -/
theorem keys_eq {β : Type} {left : OrderedMap κ α} {right : OrderedMap κ β}
    (same : ∀ key, (left.get? key).isSome = (right.get? key).isSome) : left.keys = right.keys := by
  have members : ∀ key, key ∈ left.keys ↔ key ∈ right.keys := by
    intro key
    rw [mem_keys, mem_keys, ← Option.isSome_iff_exists, ← Option.isSome_iff_exists, same key]
  -- Lists with the same members that both ascend are the same list.
  have permuted := (List.perm_ext_iff_of_nodup left.nodup_keys right.nodup_keys).mpr members
  exact permuted.eq_of_pairwise
    (fun _ _ _ _ less greater => absurd greater (StrictOrder.not_gt_of_lt less))
    left.ascending right.ascending

/-- A key that had no value joins the keys when it is given one. -/
theorem perm_keys_insert [DecidableLT κ] {map : OrderedMap κ α} {key : κ}
    (fresh : map.get? key = none) (value : α) :
    (map.insert key value).keys.Perm (key :: map.keys) := by
  have missing : key ∉ map.keys := fun member => by
    obtain ⟨old, found⟩ := mem_keys.mp member
    cases fresh.symm.trans found
  -- Neither list has a key twice, so they need only have the same members.
  refine (List.perm_ext_iff_of_nodup (nodup_keys _)
    (List.nodup_cons.mpr ⟨missing, map.nodup_keys⟩)).mpr fun other => ?_
  simp only [mem_keys, get?_insert, List.mem_cons]
  by_cases same : key = other
  · simp [same]
  · simp [same, Ne.symm same]

/-- Placing an entry keeps the selected values if neither it nor the one it replaces is selected. -/
theorem filter_place [DecidableLT κ] {selected : α → Bool} {key : κ} {value : α}
    {entries : List (κ × α)} (fresh : selected value = false)
    (replaced : ∀ old, find? key entries = some old → selected old = false) :
    ((place key value entries).map Prod.snd).filter selected =
      (entries.map Prod.snd).filter selected := by
  -- The entry goes past those with smaller keys, and all of them keep their places.
  induction entries with
  | nil => simp [place, fresh]
  | cons entry rest ih =>
    unfold place
    split
    · -- The entry goes in front of this one.
      simp [fresh]
    · rename_i notLess
      split
      · -- The entry goes behind this one, which has another key.
        rename_i greater
        have apart : entry.1 ≠ key := StrictOrder.ne_of_lt greater
        have tail := ih fun old found => replaced old (by simpa [find?, apart] using found)
        simp only [List.map_cons, List.filter_cons, tail]
      · -- The entry takes the place of this one, as their keys are the same.
        rename_i notGreater
        have same : key = entry.1 := StrictOrder.connected notLess notGreater
        have old := replaced entry.2 (by simp [find?, same])
        simp [fresh, old]

/-- Inserting keeps the selected values if neither the new one nor the one replaced is selected. -/
theorem filter_values_insert [DecidableLT κ] {selected : α → Bool} {map : OrderedMap κ α} {key : κ}
    {value : α} (fresh : selected value = false)
    (replaced : ∀ old, map.get? key = some old → selected old = false) :
    (map.insert key value).values.filter selected = map.values.filter selected :=
  filter_place fresh replaced

/-- Erasing keeps the selected values if the one erased is not selected. -/
theorem filter_values_erase {selected : α → Bool} {map : OrderedMap κ α} {key : κ}
    (erased : ∀ old, map.get? key = some old → selected old = false) :
    (map.erase key).values.filter selected = map.values.filter selected := by
  -- On both sides the entries are filtered, and the erased one passes neither filter.
  unfold values erase
  rw [List.filter_map, List.filter_map, List.filter_filter]
  congr 1
  refine List.filter_congr fun entry member => ?_
  by_cases here : entry.1 = key
  · have old := erased entry.2 (here ▸ get?_eq_some_iff.mpr member)
    simp [old]
  · simp [here]

/-- The value of every key is one of the list's, in the order of the keys. -/
theorem values_pairwise {map : OrderedMap κ α} {keyOf : α → κ}
    (filed : ∀ {key value}, map.get? key = some value → keyOf value = key) :
    (map.values.map keyOf).Pairwise (· < ·) := by
  -- Each value knows its key, so this is the order of the entries.
  have same : map.values.map keyOf = map.entries.map Prod.fst := by
    unfold values
    rw [List.map_map]
    exact List.map_congr_left fun entry member => filed (get?_eq_some_iff.mpr member)
  rw [same]
  exact map.ascending

/-- A value that is the only one for its key in a list is the key's value in the list's map. -/
theorem get?_ofList [DecidableLT κ] {entries : List (κ × α)} {key : κ} {value : α}
    (member : (key, value) ∈ entries) (only : ∀ other, (key, other) ∈ entries → other = value) :
    (ofList entries).get? key = some value := by
  -- The value is in the map already, or is still to come, and nothing that comes replaces it.
  suffices insertAll : ∀ (entries : List (κ × α)) (map : OrderedMap κ α),
      (map.get? key = some value ∨ (key, value) ∈ entries) →
      (∀ other, (key, other) ∈ entries → other = value) →
      (entries.foldl (fun map entry => map.insert entry.1 entry.2) map).get? key = some value from
    insertAll entries empty (Or.inr member) only
  intro entries
  induction entries with
  | nil => intro map held _; simpa using held
  | cons entry rest ih =>
    intro map held only
    refine ih _ ?_ fun other later => only other (List.mem_cons_of_mem _ later)
    rw [get?_insert]
    -- The entry is for this key, so it brings the value.
    by_cases here : entry.1 = key
    · have same := only entry.2 (by rw [← here]; exact List.mem_cons_self)
      exact Or.inl (by rw [if_pos here, same])
    · -- The entry is for another key, and what was there or is to come is so still.
      rcases held with held | member
      · exact Or.inl (by rw [if_neg here]; exact held)
      · rcases List.mem_cons.mp member with first | later
        · exact absurd (congrArg Prod.fst first).symm here
        · exact Or.inr later

/-- Whatever the map of a list holds is one of the list's entries. -/
theorem mem_of_get?_ofList [DecidableLT κ] {entries : List (κ × α)} {key : κ} {value : α}
    (found : (ofList entries).get? key = some value) : (key, value) ∈ entries := by
  -- What is found was in the map before, or it came with one of the entries.
  suffices insertAll : ∀ (entries : List (κ × α)) (map : OrderedMap κ α),
      (entries.foldl (fun map entry => map.insert entry.1 entry.2) map).get? key = some value →
      map.get? key = some value ∨ (key, value) ∈ entries by
    simpa using insertAll entries empty found
  intro entries
  induction entries with
  | nil => intro map held; exact Or.inl held
  | cons entry rest ih =>
    intro map held
    -- What is found was there before the rest, so this entry brought it or it was there before.
    rcases ih _ held with before | later
    · rw [get?_insert] at before
      split at before
      · rename_i here
        cases before
        exact Or.inr (here ▸ List.mem_cons_self)
      · exact Or.inl before
    · exact Or.inr (List.mem_cons_of_mem _ later)

end ControlPlane.OrderedMap
