import ControlPlane.Discovery.Snapshot
import ControlPlane.Ordered.Map

/-! The current snapshot of every label, and who watches it. -/

namespace ControlPlane

/-- One who watches a label. -/
structure Watcher where
  label : Label
  /-- The version that was last looked at. -/
  seen : Nat
deriving DecidableEq, Repr

/-- Snapshots are filed under their labels, and a label has no resources before a publication. -/
def Snapshot.Filed (label : Label) (snapshot : Snapshot) : Prop :=
  snapshot.label = label ∧ (snapshot.version = 0 → snapshot = .initial label)

/-- The snapshots of all known labels, and the watchers by their names. -/
structure Cache where
  snapshots : OrderedMap Label Snapshot
  watchers : OrderedMap String Watcher
  filed : ∀ {label snapshot}, snapshots.get? label = some snapshot → snapshot.Filed label

namespace Cache

/-- The cache that knows no label. -/
def empty : Cache := ⟨.empty, .empty, by simp⟩

/-- The snapshot of a label, which is the initial one as long as the label is unknown. -/
def current (cache : Cache) (label : Label) : Snapshot :=
  (cache.snapshots.get? label).getD (.initial label)

/-- The current snapshot of a label is filed under it, whether or not the label is known. -/
theorem filed_current (cache : Cache) (label : Label) : (cache.current label).Filed label := by
  unfold current
  cases known : cache.snapshots.get? label with
  | none => exact ⟨rfl, fun _ => rfl⟩
  | some snapshot => exact cache.filed known

/-- The cache with a snapshot in the place of the one that its label had. -/
def put (cache : Cache) (label : Label) (snapshot : Snapshot) (filed : snapshot.Filed label) :
    Cache :=
  { cache with
    snapshots := cache.snapshots.insert label snapshot
    filed := by
      intro other found known
      rw [OrderedMap.get?_insert] at known
      split at known
      · rename_i same
        cases known
        exact same ▸ filed
      · exact cache.filed known }

/-- Makes a label known. -/
def touch (cache : Cache) (label : Label) : Cache :=
  cache.put label (cache.current label) (cache.filed_current label)

/-- Replaces the resources of a label and counts its version up. -/
def publish (cache : Cache) (label : Label) (resources : ResourceSet) : Cache :=
  cache.put label ⟨label, (cache.current label).version + 1, resources⟩ ⟨rfl, by simp⟩

/-- Starts watching a label under a name, in place of what the name watched before. -/
def subscribe (cache : Cache) (name : String) (label : Label) : Cache :=
  { cache.touch label with
    watchers := cache.watchers.insert name ⟨label, (cache.current label).version⟩ }

/-- Ends watching under a name. -/
def unsubscribe (cache : Cache) (name : String) : Cache :=
  { cache with watchers := cache.watchers.erase name }

/-- Whether a watcher has something new to look at. -/
def hasNews (cache : Cache) (watcher : Watcher) : Bool :=
  (cache.current watcher.label).version != watcher.seen

/-- Notes that a watcher has looked. -/
def look (cache : Cache) (name : String) : Cache :=
  match cache.watchers.get? name with
  | none => cache
  | some w =>
    { cache with watchers :=
        cache.watchers.insert name { w with seen := (cache.current w.label).version } }

/-- Whether a label is watched. -/
def isWatched (cache : Cache) (label : Label) : Bool :=
  cache.watchers.values.any fun w => w.label = label

/-- Whether a label is known but was never published to and is not watched. -/
def isIdle (cache : Cache) (label : Label) : Bool :=
  match cache.snapshots.get? label with
  | some snapshot => snapshot.version = 0 && !cache.isWatched label
  | none => false

/-- Forgets a label that is idle; proxies may name any label, and not each shall stay. -/
def release (cache : Cache) (label : Label) : Cache :=
  if cache.isIdle label then
    { cache with
      snapshots := cache.snapshots.erase label
      filed := fun known => cache.filed (OrderedMap.get?_of_get?_erase known) }
  else cache

/-- The known labels. -/
def labels (cache : Cache) : List Label := cache.snapshots.keys

/-- What may be asked of the cache. -/
inductive Operation where
  | publish (label : Label) (resources : ResourceSet)
  | snapshot (label : Label)
  | subscribe (name : String) (label : Label)
  | look (name : String)
  | unsubscribe (name : String)
  | release (label : Label)
  | labels

/-- What the cache answers. -/
inductive Answer where
  | snapshot (snapshot : Snapshot)
  /-- Whether there was something new to look at, and what is there, unless nobody watches. -/
  | seen (news : Option (Bool × Snapshot))
  /-- Whether there was something to take away. -/
  | gone (removed : Bool)
  | labels (labels : List Label)
deriving DecidableEq, Repr

/-- Carries out an operation. -/
def operate (cache : Cache) : Operation → Cache × Answer
  | .publish label resources =>
    let next := cache.publish label resources
    (next, .snapshot (next.current label))
  | .snapshot label => (cache.touch label, .snapshot (cache.current label))
  | .subscribe name label => (cache.subscribe name label, .snapshot (cache.current label))
  | .look name =>
    (cache.look name, .seen ((cache.watchers.get? name).map fun watcher =>
      (cache.hasNews watcher, cache.current watcher.label)))
  | .unsubscribe name => (cache.unsubscribe name, .gone (cache.watchers.has name))
  | .release label => (cache.release label, .gone (cache.isIdle label))
  | .labels => (cache, .labels cache.labels)

/-- The state after operations, one after the other. -/
def run (cache : Cache) (operations : List Operation) : Cache :=
  operations.foldl (fun cache operation => (cache.operate operation).1) cache

end Cache

end ControlPlane
