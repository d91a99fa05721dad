import ControlPlane.Discovery.Cache

/-! What each operation does to the current snapshots: only publishing changes one, for a newer. -/

namespace ControlPlane.Cache

/-- A snapshot that is put into the cache is filed under its label, and every other stays. -/
theorem get?_put (cache : Cache) (label other : Label) (snapshot : Snapshot)
    (filed : snapshot.Filed label) :
    (cache.put label snapshot filed).snapshots.get? other =
      if label = other then some snapshot else cache.snapshots.get? other :=
  OrderedMap.get?_insert ..

/-- A label that is published to has what was published, and every other keeps what it has. -/
theorem get?_publish (cache : Cache) (label other : Label) (resources : ResourceSet) :
    (cache.publish label resources).snapshots.get? other =
      if label = other then some ⟨label, (cache.current label).version + 1, resources⟩
      else cache.snapshots.get? other :=
  get?_put ..

/-- A snapshot that is put into the cache is the current one of its label and of no other. -/
theorem current_put (cache : Cache) (label other : Label) (snapshot : Snapshot)
    (filed : snapshot.Filed label) :
    (cache.put label snapshot filed).current other =
      if label = other then snapshot else cache.current other := by
  -- The map answers the look-up, and a label that it does not hold stays initial.
  unfold current
  rw [get?_put]
  split <;> rfl

/-- Publishing gives a label the next version, with exactly the resources published. -/
theorem current_publish (cache : Cache) (label other : Label) (resources : ResourceSet) :
    (cache.publish label resources).current other =
      if label = other then ⟨label, (cache.current label).version + 1, resources⟩
      else cache.current other :=
  current_put ..

/-- Making a label known does not change what is current. -/
@[simp] theorem current_touch (cache : Cache) (label other : Label) :
    (cache.touch label).current other = cache.current other := by
  -- What is put is the snapshot that the label had anyway.
  unfold touch
  rw [current_put]
  split
  · rename_i same; rw [same]
  · rfl

/-- Subscribing to a label makes it known at most. -/
@[simp] theorem current_subscribe (cache : Cache) (name : String) (label other : Label) :
    (cache.subscribe name label).current other = cache.current other :=
  current_touch cache label other

/-- Ending to watch touches the watchers alone. -/
@[simp] theorem current_unsubscribe (cache : Cache) (name : String) (other : Label) :
    (cache.unsubscribe name).current other = cache.current other := rfl

/-- Looking does not change what there is to see. -/
@[simp] theorem current_look (cache : Cache) (name : String) (other : Label) :
    (cache.look name).current other = cache.current other := by
  -- Looking touches the watchers alone.
  unfold look
  split <;> rfl

/-- Only a label that still has its initial snapshot is idle. -/
theorem current_of_isIdle {cache : Cache} {label : Label} (idle : cache.isIdle label = true) :
    cache.current label = .initial label := by
  -- An idle label is known at version zero, and the cache files only initial snapshots so.
  unfold isIdle at idle
  split at idle
  · rename_i snapshot known
    have unpublished : snapshot.version = 0 := by simp_all
    have initial := (cache.filed known).2 unpublished
    simp [current, known, initial]
  · cases idle

/-- Forgetting an idle label does not change what is current. -/
@[simp] theorem current_release (cache : Cache) (label other : Label) :
    (cache.release label).current other = cache.current other := by
  -- Only an idle label is forgotten.
  unfold release
  split
  · rename_i idle
    by_cases same : label = other
    · -- The forgotten snapshot is the one that an unknown label has.
      subst same
      rw [current_of_isIdle idle]
      simp [current, OrderedMap.get?_erase]
    · simp [current, OrderedMap.get?_erase, same]
  · rfl

/-- Forgetting a label leaves the watchers alone, since an idle label has none. -/
@[simp] theorem watchers_release (cache : Cache) (label : Label) :
    (cache.release label).watchers = cache.watchers := by
  -- Letting go takes a snapshot away, if anything.
  unfold release
  split <;> rfl

/-- Looking changes what the one who looks has seen, and nobody else. -/
theorem get?_watchers_look (cache : Cache) (name other : String) :
    (cache.look name).watchers.get? other =
      if name = other then
        (cache.watchers.get? name).map fun w => ⟨w.label, (cache.current w.label).version⟩
      else cache.watchers.get? other := by
  -- Only one who watches looks, and what was seen then is the current version.
  unfold look
  split
  · -- One who does not watch cannot look.
    rename_i absent
    by_cases same : name = other
    · subst same; rw [if_pos rfl, absent]; rfl
    · rw [if_neg same]
  · -- The watcher is filed anew under the same name.
    rename_i watcher watching
    rw [OrderedMap.get?_insert, watching]
    rfl

/-- Whatever a label's current snapshot is, it bears the label. -/
@[simp] theorem label_current (cache : Cache) (label : Label) :
    (cache.current label).label = label := (cache.filed_current label).1

/-- The current snapshot of a label is told by its version and its resources. -/
theorem mk_current (cache : Cache) (label : Label) :
    (⟨label, (cache.current label).version, (cache.current label).resources⟩ : Snapshot) =
      cache.current label := by
  -- A snapshot is its three fields, and the first of them is the label.
  have labelled := cache.label_current label
  cases current : cache.current label
  simp_all

/-! The versions of a label only grow. -/

/-- Every label has the snapshot that it had before, or one of a greater version. -/
def Advances (before after : Cache) : Prop :=
  ∀ label, (before.current label).version < (after.current label).version ∨
    after.current label = before.current label

/-- A cache with the same current snapshots has advanced, if only by nothing. -/
theorem Advances.of_current_eq {before after : Cache}
    (same : ∀ label, after.current label = before.current label) : Advances before after :=
  fun label => Or.inr (same label)

/-- A cache that nothing happened to has advanced by nothing. -/
theorem Advances.refl (cache : Cache) : Advances cache cache := .of_current_eq fun _ => rfl

/-- A cache that advanced twice has advanced. -/
theorem Advances.trans {first second third : Cache} (early : Advances first second)
    (late : Advances second third) : Advances first third := by
  -- A version that has grown once stays greater.
  intro label
  rcases early label with grown | same <;> rcases late label with grown' | same'
  · exact Or.inl (Nat.lt_trans grown grown')
  · exact Or.inl (same' ▸ grown)
  · exact Or.inl (same ▸ grown')
  · exact Or.inr (same'.trans same)

/-- If a label has the version that it had before, it has the snapshot that it had. -/
theorem Advances.eq_of_version {before after : Cache} (advances : Advances before after)
    {label : Label}
    (version : (before.current label).version = (after.current label).version) :
    before.current label = after.current label := by
  -- A version that has grown is another one.
  rcases advances label with grown | same
  · exact absurd version (Nat.ne_of_lt grown)
  · exact same.symm

/-- Publishing to a label advances it, and leaves the others as they are. -/
theorem advances_publish (cache : Cache) (label : Label) (resources : ResourceSet) :
    Advances cache (cache.publish label resources) := by
  -- Only the label that is published to can have another snapshot.
  intro other
  rw [current_publish]
  split
  · -- The version is counted up by one.
    rename_i same
    subst same
    exact Or.inl (Nat.lt_succ_self _)
  · exact Or.inr rfl

/-- A snapshot is the current one of its label, or has a smaller version than that. -/
def Knew (cache : Cache) (snapshot : Snapshot) : Prop :=
  snapshot.version < (cache.current snapshot.label).version ∨
    cache.current snapshot.label = snapshot

/-- The current snapshot of a label is one that the cache knew. -/
theorem knew_current (cache : Cache) (label : Label) : cache.Knew (cache.current label) :=
  Or.inr (by rw [label_current])

/-- What a cache knew it knows whatever is published later. -/
theorem Knew.advance {before after : Cache} {snapshot : Snapshot} (knew : before.Knew snapshot)
    (advances : Advances before after) : after.Knew snapshot := by
  -- The label has kept the snapshot, or has one of a greater version still.
  rcases knew with older | current <;> rcases advances snapshot.label with grown | same
  · exact Or.inl (Nat.lt_trans older grown)
  · exact Or.inl (same ▸ older)
  · exact Or.inl (by rwa [current] at grown)
  · exact Or.inr (same.trans current)

/-- No snapshot that a cache knew is newer than the current one of its label. -/
theorem Knew.version_le {cache : Cache} {snapshot : Snapshot} (knew : cache.Knew snapshot) :
    snapshot.version ≤ (cache.current snapshot.label).version := by
  -- It is older, or it is the current one itself.
  rcases knew with older | current
  · exact Nat.le_of_lt older
  · exact Nat.le_of_eq (by rw [current])

/-- Of the snapshots that a cache knew, none has the version of the current one but itself. -/
theorem Knew.eq_current {cache : Cache} {snapshot : Snapshot} (knew : cache.Knew snapshot)
    (version : (cache.current snapshot.label).version = snapshot.version) :
    cache.current snapshot.label = snapshot := by
  -- An older one has a smaller version.
  rcases knew with older | current
  · exact absurd version (Nat.ne_of_gt older)
  · exact current

end ControlPlane.Cache
