import ControlPlane.Deploy.Deployer
import ControlPlane.Proofs.Ordered.Map

/-! The keys by which the names of all resources begin: each is claimed by one API alone. -/

namespace ControlPlane

namespace Registry

/-- Whether no two deployed APIs begin the names of their resources alike. -/
def Apart (registry : Registry) : Prop :=
  ∀ ⦃a b⦄, a ∈ registry.keys → b ∈ registry.keys → Naming.apiKey a = Naming.apiKey b → a = b

/-- Whether each of some APIs is the owner of its key. -/
def Owns (owners : Owners) (ids : List ApiId) : Prop :=
  ∀ id ∈ ids, owners.get? (Naming.apiKey id) = some id

/-- A key has one owner, so owners with one key are the same API. -/
theorem Owns.eq_of_key {owners : Owners} {ids : List ApiId} (owns : Owns owners ids) {a b : ApiId}
    (first : a ∈ ids) (second : b ∈ ids) (same : Naming.apiKey a = Naming.apiKey b) : a = b := by
  -- The owner of the common key is both the one and the other.
  have owner := owns a first
  rw [same, owns b second] at owner
  exact (Option.some.inj owner).symm

/-- An API that claims a free key, or its own, joins the owners. -/
theorem Owns.insert {owners : Owners} {ids : List ApiId} (owns : Owns owners ids) {id : ApiId}
    (free : ∀ owner, owners.get? (Naming.apiKey id) = some owner → owner = id) :
    Owns (OrderedMap.insert owners (Naming.apiKey id) id) (ids ++ [id]) := by
  intro other member
  rw [OrderedMap.get?_insert]
  split
  · -- Whoever had this key before is the API itself.
    rename_i same
    rcases List.mem_append.mp member with before | new
    · have owner := owns other before
      rw [← same] at owner
      rw [free other owner]
    · rw [List.mem_singleton.mp new]
  · rename_i apart
    rcases List.mem_append.mp member with before | new
    · exact owns other before
    · exact absurd (congrArg Naming.apiKey (List.mem_singleton.mp new)).symm apart

/-- The deployed APIs own their keys if no two of them have the same one. -/
theorem Apart.owns {registry : Registry} (apart : registry.Apart) :
    Owns registry.owners registry.keys := by
  intro id member
  refine OrderedMap.get?_ofList (List.mem_map.mpr ⟨id, member, rfl⟩) fun other listed => ?_
  -- An entry for the same key comes from a deployed API with that key.
  obtain ⟨same, among, entry⟩ := List.mem_map.mp listed
  have pair := Prod.mk.inj entry
  rw [← pair.2]
  exact apart among member pair.1

end Registry

namespace Deploy

/-- When all claims of an upload are granted, one register of owners serves old and new APIs. -/
theorem claimNames_owns {apis : List Descriptor} {owners : Registry.Owners} {ids : List ApiId}
    (granted : claimNames owners apis = .ok ()) (owns : Registry.Owns owners ids) :
    ∃ final, Registry.Owns final (ids ++ apis.map Descriptor.id) := by
  -- The induction is on the APIs, each of which owns its key when the next one claims another.
  induction apis generalizing owners ids with
  | nil => exact ⟨owners, by simpa using owns⟩
  | cons api rest ih =>
    -- The first claim is granted only if its key is free or owned by the same API.
    have claim : (∀ owner, owners.get? (Naming.apiKey api.id) = some owner → owner = api.id) ∧
        claimNames (owners.insert (Naming.apiKey api.id) api.id) rest = .ok () := by
      simp only [claimNames] at granted
      split at granted
      · rename_i owner found
        split at granted
        · rename_i own
          refine ⟨fun other held => ?_, granted⟩
          rw [found] at held
          exact Option.some.inj held ▸ own
        · cases granted
      · rename_i unclaimed
        refine ⟨fun other held => ?_, granted⟩
        rw [unclaimed] at held
        cases held
    obtain ⟨final, holds⟩ := ih claim.2 (owns.insert claim.1)
    exact ⟨final, by simpa using holds⟩

end Deploy

end ControlPlane
