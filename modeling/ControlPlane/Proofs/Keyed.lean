import Mathlib.Data.List.DropRight
import Mathlib.Data.List.Nodup

/-! Lists in which a value takes the place of the one with its key: each key stands where it came
first, with the value that came last. -/

namespace ControlPlane.Keyed

variable {α κ : Type} [DecidableEq κ]

/-- Puts a value: in the place of the first one with its key, else at the end. -/
def put (key : α → κ) (value : α) : List α → List α
  | [] => [value]
  | first :: rest => if key first = key value then value :: rest else first :: put key value rest

/-- Puts values into an empty list, one after the other. -/
def putAll (key : α → κ) (values : List α) : List α :=
  values.foldl (fun found value => put key value found) []

/-- Notes a key at the end, unless it is noted already. -/
def note (found : List κ) (k : κ) : List κ := if k ∈ found then found else found ++ [k]

/-- Keys that are noted once stay so. -/
theorem nodup_note {found : List κ} (distinct : found.Nodup) (k : κ) : (note found k).Nodup := by
  unfold note
  split
  · exact distinct
  · -- The key that is added is none of those there.
    rename_i fresh
    refine List.nodup_append.mpr ⟨distinct, by simp, ?_⟩
    rintro old among new added rfl
    exact fresh (List.mem_singleton.mp added ▸ among)

/-- One more key is noted behind those at their first places, unless it is among them. -/
theorem eraseDups_concat (keys : List κ) (k : κ) :
    (keys ++ [k]).eraseDups = note keys.eraseDups k := by
  -- What is added behind is what the keys do not have yet.
  rw [List.eraseDups_append]
  unfold note
  by_cases known : k ∈ keys
  · rw [if_pos (List.mem_eraseDups.mpr known)]
    simp [List.removeAll, known]
  · rw [if_neg fun also => known (List.mem_eraseDups.mp also)]
    simp [List.removeAll, known, List.eraseDups_cons]

/-- Keys that are noted one after the other stand at their first places. -/
theorem foldl_note (keys : List κ) : keys.foldl note [] = keys.eraseDups := by
  -- The induction is on the last key, which is noted when all others are.
  induction keys using List.reverseRecOn with
  | nil => rfl
  | append_singleton keys k ih => rw [List.foldl_concat, ih, eraseDups_concat]

/-- At their first places no key stands twice. -/
theorem nodup_eraseDups (keys : List κ) : keys.eraseDups.Nodup := by
  -- Noting keeps keys distinct, and they are noted one by one.
  induction keys using List.reverseRecOn with
  | nil => exact .nil
  | append_singleton keys k ih => exact eraseDups_concat keys k ▸ nodup_note ih k

/-- The first key that passes a test is the first one at the first places. -/
theorem find?_eraseDups (test : κ → Bool) (keys : List κ) :
    keys.eraseDups.find? test = keys.find? test := by
  -- The induction is on the last key, which comes behind all others that pass.
  induction keys using List.reverseRecOn with
  | nil => rfl
  | append_singleton keys k ih =>
    rw [eraseDups_concat, List.find?_append]
    unfold note
    split
    · -- A key that is noted already is not the first to pass.
      rename_i known
      rw [ih]
      cases found : keys.find? test with
      | some first => rfl
      | none =>
        have fails := List.find?_eq_none.mp found k (List.mem_eraseDups.mp known)
        simp [fails]
    · rw [List.find?_append, ih]

section

variable {key : α → κ}

/-- Putting a value notes its key. -/
theorem map_put (value : α) (found : List α) :
    (put key value found).map key = note (found.map key) (key value) := by
  -- The value goes past all that have other keys.
  induction found with
  | nil => rfl
  | cons first rest ih =>
    unfold put
    split
    · -- The value stands in for one that has its key.
      rename_i same
      simp [note, same]
    · -- Its key is noted among the others or behind them.
      rename_i apart
      rw [List.map_cons, ih]
      simp only [note, List.map_cons, List.mem_cons, Ne.symm apart, false_or]
      split <;> rfl

/-- A value among others after one more was put is that one, or was there before. -/
theorem mem_of_mem_put {value other : α} {found : List α} (member : other ∈ put key value found) :
    other = value ∨ other ∈ found := by
  -- The value takes the place of one, or it comes behind all of them.
  induction found with
  | nil => exact Or.inl (List.mem_singleton.mp member)
  | cons first rest ih =>
    unfold put at member
    split at member
    · -- The others are those behind the one that was replaced.
      exact (List.mem_cons.mp member).imp_right (List.mem_cons_of_mem _)
    · rcases List.mem_cons.mp member with same | later
      · exact Or.inr (same ▸ List.mem_cons_self)
      · exact (ih later).imp_right (List.mem_cons_of_mem _)

/-- A value whose key is new is put at the end. -/
theorem put_of_notMem {value : α} {found : List α} (fresh : key value ∉ found.map key) :
    put key value found = found ++ [value] := by
  -- No value on the way has the key, so it is put behind all of them.
  induction found with
  | nil => rfl
  | cons first rest ih =>
    rw [List.map_cons, List.mem_cons, not_or] at fresh
    rw [put, if_neg (Ne.symm fresh.1), ih fresh.2, List.cons_append]

/-- A key that no value has selects none. -/
theorem filter_eq_nil {values : List α} {k : κ} (absent : k ∉ values.map key) :
    values.filter (key · = k) = [] := by
  -- A value that passed the filter would have the key.
  refine List.filter_eq_nil_iff.mpr fun value member => ?_
  have apart : key value ≠ k := fun named => absent (List.mem_map.mpr ⟨_, member, named⟩)
  simpa using apart

/-- Of the values with a key there is a last one, if there is one at all. -/
theorem exists_last {values : List α} {k : κ} (keyed : k ∈ values.map key) :
    ∃ value ∈ values, key value = k ∧ (values.filter (key · = k)).getLast? = some value := by
  cases last : (values.filter (key · = k)).getLast? with
  | none =>
    -- The value that has the key passes the filter.
    obtain ⟨value, member, same⟩ := List.mem_map.mp keyed
    have empty := List.filter_eq_nil_iff.mp (List.getLast?_eq_none_iff.mp last) value member
    exact absurd (decide_eq_true same) empty
  | some value =>
    obtain ⟨member, same⟩ := List.mem_filter.mp (List.mem_of_getLast? last)
    exact ⟨value, member, of_decide_eq_true same, rfl⟩

/-- Of the values with the key of one that was put, only that one is left. -/
theorem filter_put {value : α} {found : List α} (distinct : (found.map key).Nodup) (k : κ) :
    (put key value found).filter (key · = k) =
      if key value = k then [value] else found.filter (key · = k) := by
  -- The induction is on the values, as far as the one that is replaced.
  induction found with
  | nil => by_cases keyed : key value = k <;> simp [put, keyed]
  | cons first rest ih =>
    obtain ⟨fresh, tail⟩ := List.nodup_cons.mp distinct
    unfold put
    by_cases same : key first = key value
    · rw [if_pos same]
      by_cases keyed : key value = k
      · -- No value behind the replaced one has its key.
        simp [keyed, filter_eq_nil (keyed ▸ same ▸ fresh)]
      · simp [same, keyed]
    · rw [if_neg same]
      -- The value is still to be put, and this one has another key than it.
      by_cases keyed : key value = k
      · have apart : key first ≠ k := fun also => same (also.trans keyed.symm)
        simp [ih tail, keyed, apart]
      · simp [List.filter_cons, ih tail, keyed]

/-- Of values with different keys, one alone has the key that it has. -/
theorem filter_of_mem {values : List α} (distinct : (values.map key).Nodup) {value : α}
    (member : value ∈ values) : values.filter (key · = key value) = [value] := by
  -- The value is the first one or one of the rest, which the first one's key does not reach.
  induction values with
  | nil => cases member
  | cons first rest ih =>
    obtain ⟨fresh, tail⟩ := List.nodup_cons.mp distinct
    rcases List.mem_cons.mp member with rfl | later
    · -- No value behind it has its key.
      rw [List.filter_cons_of_pos (by simp), filter_eq_nil fresh]
    · have apart : key first ≠ key value := fun same =>
        fresh (same ▸ List.mem_map_of_mem later)
      rw [List.filter_cons_of_neg (by simpa using apart), ih tail later]

/-- The last value is put when all others are. -/
theorem putAll_concat (values : List α) (value : α) :
    putAll key (values ++ [value]) = put key value (putAll key values) :=
  List.foldl_concat ..

/-- Values that are put have their keys at the first places of these. -/
theorem map_putAll (values : List α) :
    (putAll key values).map key = (values.map key).eraseDups := by
  -- The induction is on the last value, whose key is noted when all others are.
  induction values using List.reverseRecOn with
  | nil => rfl
  | append_singleton values value ih =>
    rw [putAll_concat, map_put, ih, List.map_append, List.map_singleton, eraseDups_concat]

/-- No two values that are put have the same key. -/
theorem nodup_keys_putAll (values : List α) : ((putAll key values).map key).Nodup := by
  rw [map_putAll]
  exact nodup_eraseDups _

/-- The keys that are left are those of the values that were put. -/
theorem mem_keys_putAll {values : List α} {k : κ} :
    k ∈ (putAll key values).map key ↔ k ∈ values.map key := by
  rw [map_putAll, List.mem_eraseDups]

/-- Each value that is left is one of those that were put. -/
theorem mem_of_mem_putAll {values : List α} {value : α} (member : value ∈ putAll key values) :
    value ∈ values := by
  -- The last value is put among those that were put before.
  induction values using List.reverseRecOn with
  | nil => cases member
  | append_singleton values last ih =>
    rw [putAll_concat] at member
    rcases mem_of_mem_put member with rfl | before
    · exact List.mem_append_right _ (List.mem_singleton_self _)
    · exact List.mem_append_left _ (ih before)

/-- Of the values with one key the last is left. -/
theorem filter_putAll (values : List α) (k : κ) :
    (putAll key values).filter (key · = k) = (values.filter (key · = k)).getLast?.toList := by
  -- The induction is on the last value, as the last one with the key is what counts.
  induction values using List.reverseRecOn with
  | nil => rfl
  | append_singleton values value ih =>
    rw [putAll_concat, filter_put (nodup_keys_putAll values), ih, List.filter_append]
    -- If the value has the key, nothing before it is the last.
    by_cases keyed : key value = k <;> simp [keyed]

/-- What is left is, for each key where it comes first, the last value with it. -/
theorem putAll_eq (values : List α) :
    putAll key values = (values.map key).eraseDups.filterMap fun k =>
      (values.filter (key · = k)).getLast? := by
  -- Each value that is left is the last one with its key.
  have last : ∀ value ∈ putAll key values,
      (values.filter (key · = key value)).getLast? = some value := by
    intro value member
    have alone := filter_of_mem (nodup_keys_putAll values) member
    rw [filter_putAll] at alone
    exact Option.toList_eq_singleton_iff.mp alone
  rw [← map_putAll, List.filterMap_map]
  exact (List.filterMap_congr last).trans List.filterMap_some |>.symm

/-- Values that are made of others are left where these are, put by the keys that they will have. -/
theorem putAll_map {β : Type} (make : β → α) (values : List β) :
    putAll key (values.map make) = (putAll (key ∘ make) values).map make := by
  -- Both sides are, for each key, the last of the values with it.
  simp only [putAll_eq, List.map_map, List.map_filterMap, List.filter_map, List.getLast?_map]
  rfl

/-- Values with different keys stay as they are. -/
theorem putAll_of_nodup {values : List α} (distinct : (values.map key).Nodup) :
    putAll key values = values := by
  -- The induction is on the last value, whose key none before it has.
  induction values using List.reverseRecOn with
  | nil => rfl
  | append_singleton values value ih =>
    rw [List.map_append, List.map_singleton, ← List.concat_eq_append, List.nodup_concat] at distinct
    obtain ⟨fresh, before⟩ := distinct
    rw [putAll_concat, ih before, put_of_notMem fresh]

end

end ControlPlane.Keyed
