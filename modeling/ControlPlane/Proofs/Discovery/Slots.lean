import ControlPlane.Discovery.Slots
import ControlPlane.Proofs.Discovery.Cache
import ControlPlane.Proofs.Ordered.Map

/-! The cache answers as its channels do: no watcher is left with a channel that its label lost. -/

namespace ControlPlane

namespace Slots

/-- A channel that is sent on has what was sent, and the others keep what they have. -/
theorem channel_send {slots : Slots} {number : Nat} (allocated : number < slots.channels.length)
    (snapshot : Snapshot) (other : Nat) :
    (slots.send number snapshot).channel other =
      if number = other then ⟨snapshot, (slots.channel number).sends + 1⟩
      else slots.channel other := by
  -- The list of channels is changed at one number.
  unfold send channel
  simp only [List.getD_eq_getElem?_getD, List.getElem?_set, allocated, if_true]
  split
  · -- The channel is one that there is.
    rename_i same; subst same; simp [allocated]
  · rfl

/-- The label that gets a new channel has it, and the others keep theirs. -/
theorem get?_slots_enter (slots : Slots) (label other : Label) :
    (slots.enter label).slots.get? other =
      if label = other then some slots.channels.length else slots.slots.get? other :=
  OrderedMap.get?_insert ..

/-- A new channel stands behind all others, and is the initial one of its label. -/
theorem channel_enter (slots : Slots) (label : Label) (other : Nat) :
    (slots.enter label).channel other =
      if slots.channels.length = other then ⟨.initial label, 0⟩ else slots.channel other := by
  unfold enter channel
  -- A number is that of an old channel, of the new one or of none.
  simp only [List.getD_eq_getElem?_getD, List.getElem?_append]
  split
  · -- An old number.
    rename_i old
    rw [if_neg (Nat.ne_of_gt old)]
  · rename_i young
    split
    · rename_i same; subst same; simp
    · rename_i apart
      -- A number that no channel has.
      obtain ⟨beyond, gap⟩ : ∃ beyond, other = slots.channels.length + (beyond + 1) :=
        ⟨other - slots.channels.length - 1, by omega⟩
      simp [gap]

/-- Whether a cache is what the channels show: the snapshots are those on the channels of the known
labels, and each watcher holds the channel that the label it watches has. -/
structure Mirrors (slots : Slots) (cache : Cache) : Prop where
  allocated : ∀ {label number}, slots.slots.get? label = some number →
    number < slots.channels.length
  own : ∀ {label number}, slots.slots.get? label = some number →
    (slots.channel number).value.label = label
  counted : ∀ number, (slots.channel number).sends = (slots.channel number).value.version
  attached : ∀ {name receiver}, slots.receivers.get? name = some receiver →
    slots.slots.get? (slots.channel receiver.channel).value.label = some receiver.channel
  snapshots : ∀ label, cache.snapshots.get? label =
    (slots.slots.get? label).map fun number => (slots.channel number).value
  watchers : ∀ name, cache.watchers.get? name = (slots.receivers.get? name).map fun receiver =>
    ⟨(slots.channel receiver.channel).value.label, receiver.seen⟩

/-- At first there are no labels and no watchers on either side. -/
theorem mirrors_empty : Mirrors {} .empty where
  allocated known := by cases known
  own known := by cases known
  counted _ := rfl
  attached held := by cases held
  snapshots _ := rfl
  watchers _ := rfl

namespace Mirrors

variable {slots : Slots} {cache : Cache} {label : Label} {number : Nat}

/-- The current snapshot of a known label is the one on its channel. -/
theorem current (mirrors : slots.Mirrors cache) (known : slots.slots.get? label = some number) :
    cache.current label = (slots.channel number).value := by
  simp [Cache.current, mirrors.snapshots, known]

/-- A new channel leaves those of the known labels as they are. -/
theorem channel_enter (mirrors : slots.Mirrors cache)
    (known : slots.slots.get? label = some number) (fresh : Label) :
    (slots.enter fresh).channel number = slots.channel number := by
  -- The numbers in use are those of channels that were there before.
  rw [Slots.channel_enter, if_neg (Nat.ne_of_gt (mirrors.allocated known))]

/-- Giving an unknown label a channel is making it known to the cache. -/
theorem enter (mirrors : slots.Mirrors cache) (unknown : slots.slots.get? label = none) :
    (slots.enter label).Mirrors (cache.touch label) where
  allocated := by
    intro other number found
    rw [get?_slots_enter] at found
    simp only [Slots.enter, List.length_append, List.length_singleton]
    split at found
    · -- The new channel is the last one.
      cases found
      exact Nat.lt_succ_self _
    · exact Nat.lt_succ_of_lt (mirrors.allocated found)
  own := by
    intro other number found
    rw [get?_slots_enter] at found
    split at found
    · rename_i same
      cases found
      rw [Slots.channel_enter, if_pos rfl]
      exact same
    · -- The label has had its channel before.
      rw [mirrors.channel_enter found]
      exact mirrors.own found
  counted number := by
    rw [Slots.channel_enter]
    -- The new channel is at version zero and nothing was sent on it.
    split
    · rfl
    · exact mirrors.counted number
  attached := by
    intro name receiver held
    have found := mirrors.attached held
    rw [mirrors.channel_enter found, get?_slots_enter, if_neg]
    · exact found
    · -- The label that gets a new channel had none, so nobody holds one of it.
      intro same
      rw [← same, unknown] at found
      cases found
  snapshots other := by
    rw [Cache.touch, Cache.get?_put, get?_slots_enter]
    split
    · -- The new channel has the initial snapshot, which is what an unknown label counts as having.
      simp [Cache.current, mirrors.snapshots, unknown, Slots.channel_enter]
    · rw [mirrors.snapshots other]
      cases found : slots.slots.get? other with
      | none => rfl
      | some number => simp [mirrors.channel_enter found]
  watchers name := by
    rw [show (cache.touch label).watchers = cache.watchers from rfl, mirrors.watchers name]
    -- Nobody's channel is the new one, so what is watched stays the same.
    cases held : slots.receivers.get? name with
    | none => simp [Slots.enter, held]
    | some receiver =>
      simp [Slots.enter, held, ← mirrors.channel_enter (mirrors.attached held) label]

/-- Making a label known again is doing nothing. -/
theorem touch (mirrors : slots.Mirrors cache) (known : slots.slots.get? label = some number) :
    slots.Mirrors (cache.touch label) := by
  refine { mirrors with snapshots := fun other => ?_ }
  rw [Cache.touch, Cache.get?_put]
  split
  · -- What the cache puts is what it had.
    rename_i same
    subst same
    rw [mirrors.current known, known]
    rfl
  · exact mirrors.snapshots other

/-- A label that gets its channel is one that the cache then knows. -/
theorem slot (mirrors : slots.Mirrors cache) (label : Label) :
    (slots.slot label).1.Mirrors (cache.touch label) ∧
      (slots.slot label).1.slots.get? label = some (slots.slot label).2 := by
  -- The label has a channel already, or it is given one.
  unfold Slots.slot
  cases known : slots.slots.get? label with
  | some number => exact ⟨mirrors.touch known, known⟩
  | none => exact ⟨mirrors.enter known, by rw [get?_slots_enter, if_pos rfl]⟩

/-- What is sent on the channel of a label has the label, so every channel keeps its own. -/
theorem label_send (mirrors : slots.Mirrors cache)
    (known : slots.slots.get? label = some number) {snapshot : Snapshot}
    (filed : snapshot.Filed label) (other : Nat) :
    ((slots.send number snapshot).channel other).value.label =
      (slots.channel other).value.label := by
  -- The channel that is sent on has the label before and after.
  rw [channel_send (mirrors.allocated known)]
  split
  · rename_i same
    subst same
    exact filed.1.trans (mirrors.own known).symm
  · rfl

/-- Sending on the channel of a label is putting the next snapshot into the cache. -/
theorem send (mirrors : slots.Mirrors cache) (known : slots.slots.get? label = some number)
    {snapshot : Snapshot} (filed : snapshot.Filed label)
    (next : snapshot.version = (slots.channel number).value.version + 1) :
    (slots.send number snapshot).Mirrors (cache.put label snapshot filed) where
  allocated held := by simpa [Slots.send] using mirrors.allocated held
  own held := by
    rw [mirrors.label_send known filed]
    exact mirrors.own held
  counted other := by
    rw [channel_send (mirrors.allocated known)]
    split
    · -- Both the sends and the version go up by one.
      exact (congrArg (· + 1) (mirrors.counted number)).trans next.symm
    · exact mirrors.counted other
  attached held := by
    rw [mirrors.label_send known filed]
    exact mirrors.attached held
  snapshots other := by
    rw [Cache.get?_put, show (slots.send number snapshot).slots = slots.slots from rfl]
    split
    · -- The label has what was sent.
      rename_i same
      subst same
      simp [known, channel_send (mirrors.allocated known)]
    · rename_i apart
      rw [mirrors.snapshots other]
      cases found : slots.slots.get? other with
      | none => rfl
      | some another =>
        -- Another label has another channel.
        have distinct : number ≠ another := by
          rintro rfl
          exact apart ((mirrors.own known).symm.trans (mirrors.own found))
        simp [channel_send (mirrors.allocated known), distinct]
  watchers name := by
    -- The labels of channels stay, and so does what has been seen.
    simp only [mirrors.label_send known filed]
    exact mirrors.watchers name

/-- Attaching a watcher to the channel of a label is watching the label. -/
theorem attach (mirrors : slots.Mirrors cache) (known : slots.slots.get? label = some number)
    (name : String) :
    (slots.attach name number).Mirrors { cache with
      watchers := cache.watchers.insert name ⟨label, (cache.current label).version⟩ } := by
  -- The one who attaches has seen all that was sent, and the others keep their ends.
  have receivers : ∀ other, (slots.attach name number).receivers.get? other =
      if name = other then some ⟨number, (slots.channel number).sends⟩
      else slots.receivers.get? other := fun other => OrderedMap.get?_insert ..
  refine { mirrors with attached := ?_, watchers := ?_ }
  · intro other receiver held
    rw [receivers] at held
    split at held
    · -- The new watcher holds the channel of the label.
      cases held
      show slots.slots.get? (slots.channel number).value.label = some number
      rw [mirrors.own known]
      exact known
    · exact mirrors.attached held
  · intro other
    rw [OrderedMap.get?_insert, receivers]
    split
    · -- The label of the channel is the one that is watched, and its sends are its version.
      show _ = some (⟨(slots.channel number).value.label, (slots.channel number).sends⟩ : Watcher)
      rw [mirrors.own known, mirrors.counted, mirrors.current known]
    · exact mirrors.watchers other

/-- Taking an end from a watcher is ending to watch. -/
theorem detach (mirrors : slots.Mirrors cache) (name : String) :
    Mirrors { slots with receivers := slots.receivers.erase name } (cache.unsubscribe name) := by
  refine { mirrors with attached := ?_, watchers := ?_ }
  · -- Whoever still holds an end has held it before.
    intro other receiver held
    exact mirrors.attached (OrderedMap.get?_of_get?_erase held)
  · intro other
    simp only [Cache.unsubscribe, OrderedMap.get?_erase]
    split
    · -- Under this name nothing is watched on either side.
      rfl
    · exact mirrors.watchers other

/-- The channel of a label is held just if the label is watched. -/
theorem isHeld (mirrors : slots.Mirrors cache) (known : slots.slots.get? label = some number) :
    slots.isHeld number = cache.isWatched label := by
  rw [Bool.eq_iff_iff]
  simp only [Slots.isHeld, Cache.isWatched, List.any_eq_true, OrderedMap.mem_values,
    decide_eq_true_eq]
  constructor
  · -- Whoever holds the channel watches the label of it.
    rintro ⟨receiver, ⟨name, held⟩, rfl⟩
    refine ⟨⟨_, receiver.seen⟩, ⟨name, ?_⟩, mirrors.own known⟩
    rw [mirrors.watchers, held]
    rfl
  · rintro ⟨watcher, ⟨name, watching⟩, same⟩
    rw [mirrors.watchers] at watching
    obtain ⟨receiver, held, rfl⟩ := Option.map_eq_some_iff.mp watching
    -- The watcher holds the channel that its label has.
    have attached := mirrors.attached held
    rw [show (slots.channel receiver.channel).value.label = label from same, known] at attached
    exact ⟨receiver, ⟨name, held⟩, (Option.some.inj attached).symm⟩

/-- A label is idle on both sides or on none. -/
theorem isIdle (mirrors : slots.Mirrors cache) (label : Label) :
    slots.isIdle label = cache.isIdle label := by
  -- Both sides ask for the version and for a watcher.
  unfold Slots.isIdle Cache.isIdle
  rw [mirrors.snapshots label]
  cases known : slots.slots.get? label with
  | none => rfl
  | some number =>
    simp only [Option.map_some, mirrors.isHeld known]
    rw [Bool.and_comm]

/-- Letting go of the channel of an idle label is forgetting the label. -/
theorem release (mirrors : slots.Mirrors cache) (label : Label) :
    (slots.release label).Mirrors (cache.release label) := by
  unfold Slots.release Cache.release
  rw [mirrors.isIdle label]
  split
  · rename_i idle
    refine { mirrors with allocated := ?_, own := ?_, attached := ?_, snapshots := ?_ }
    · -- The labels that are left had their channels before.
      intro other number found
      exact mirrors.allocated (OrderedMap.get?_of_get?_erase found)
    · intro other number found
      exact mirrors.own (OrderedMap.get?_of_get?_erase found)
    · intro name receiver held
      have found := mirrors.attached held
      rw [OrderedMap.get?_erase, if_neg]
      · exact found
      · -- Nobody holds the channel that goes.
        intro same
        rw [← show label = (slots.channel receiver.channel).value.label from same] at found
        rw [← mirrors.isIdle label, Slots.isIdle, found] at idle
        have unheld := (Bool.and_eq_true_iff.mp idle).1
        have holder : slots.isHeld receiver.channel = true := by
          refine List.any_eq_true.mpr ⟨receiver, OrderedMap.mem_values.mpr ⟨name, held⟩, ?_⟩
          exact decide_eq_true rfl
        rw [holder] at unheld
        cases unheld
    · intro other
      -- The label that goes is unknown on both sides.
      rw [OrderedMap.get?_erase, OrderedMap.get?_erase]
      split
      · rfl
      · exact mirrors.snapshots other
  · -- The label is in use, so nothing happens on either side.
    exact mirrors

/-- Publishing on the channel of a label is publishing to the cache. -/
theorem publish (mirrors : slots.Mirrors cache) (label : Label) (resources : ResourceSet) :
    (slots.publish label resources).1.Mirrors (cache.publish label resources) ∧
      (slots.publish label resources).2 =
        ⟨label, (cache.current label).version + 1, resources⟩ := by
  obtain ⟨entered, known⟩ := mirrors.slot label
  -- The version on the channel is the current one.
  have version : ((slots.slot label).1.channel (slots.slot label).2).value.version =
      (cache.current label).version := by
    rw [← entered.current known, Cache.current_touch]
  have filed : Snapshot.Filed label ⟨label, (cache.current label).version + 1, resources⟩ :=
    ⟨rfl, by simp⟩
  have sent := entered.send known filed (by rw [version])
  simp only [Slots.publish, version]
  refine ⟨{ sent with snapshots := fun other => ?_ }, trivial⟩
  -- It does not matter whether the label was made known before.
  rw [← sent.snapshots, Cache.get?_publish, Cache.get?_put]
  split
  · rfl
  · rename_i apart
    rw [Cache.touch, Cache.get?_put, if_neg apart]

/-- Looking at a channel is looking at the label. -/
theorem look (mirrors : slots.Mirrors cache) (name : String) :
    (slots.look name).Mirrors (cache.look name) := by
  unfold Slots.look Cache.look
  -- Looking is attaching once more to the channel that is held.
  rw [mirrors.watchers name]
  cases held : slots.receivers.get? name with
  | none => exact mirrors
  | some receiver => exact mirrors.attach (mirrors.attached held) name

/-- A watcher has on its channel what the label that it watches has, and it is new on both sides or
on none. -/
theorem news (mirrors : slots.Mirrors cache) (name : String) :
    (slots.receivers.get? name).map slots.news =
      (cache.watchers.get? name).map fun watcher =>
        (cache.hasNews watcher, cache.current watcher.label) := by
  rw [mirrors.watchers name]
  cases held : slots.receivers.get? name with
  | none => rfl
  | some receiver =>
    -- What the watcher has not seen are sends on one side and versions on the other.
    have current := mirrors.current (mirrors.attached held)
    simp only [Option.map_some, Slots.news, Cache.hasNews, current, mirrors.counted]

/-- The labels that have a channel are those that the cache knows. -/
theorem labels (mirrors : slots.Mirrors cache) : slots.slots.keys = cache.labels :=
  OrderedMap.keys_eq fun label => by rw [mirrors.snapshots label, Option.isSome_map]

/-- An operation on the channels does to them what it does to the cache, and is answered alike. -/
theorem operate (mirrors : slots.Mirrors cache) (operation : Cache.Operation) :
    (slots.operate operation).1.Mirrors (cache.operate operation).1 ∧
      (slots.operate operation).2 = (cache.operate operation).2 := by
  -- The cases are the operations, each with what it does and with its answer.
  cases operation with
  | publish label resources =>
    obtain ⟨published, snapshot⟩ := mirrors.publish label resources
    refine ⟨published, ?_⟩
    simp only [Slots.operate, Cache.operate, snapshot, Cache.current_publish, if_true]
  | snapshot label =>
    -- Asking for a label makes it known, on both sides.
    obtain ⟨entered, known⟩ := mirrors.slot label
    refine ⟨entered, ?_⟩
    simp only [Slots.operate, Cache.operate, ← entered.current known, Cache.current_touch]
  | subscribe name label =>
    obtain ⟨entered, known⟩ := mirrors.slot label
    have attached := entered.attach known name
    rw [Cache.current_touch] at attached
    refine ⟨attached, ?_⟩
    simp only [Slots.operate, Cache.operate, ← entered.current known, Cache.current_touch]
  | look name => exact ⟨mirrors.look name, congrArg Cache.Answer.seen (mirrors.news name)⟩
  | unsubscribe name =>
    refine ⟨mirrors.detach name, ?_⟩
    simp only [Slots.operate, Cache.operate, OrderedMap.has, mirrors.watchers name,
      Option.isSome_map]
  | release label =>
    exact ⟨mirrors.release label, congrArg Cache.Answer.gone (mirrors.isIdle label)⟩
  | labels => exact ⟨mirrors, congrArg Cache.Answer.labels mirrors.labels⟩

/-- After any operations the channels still show what the cache has. -/
theorem run (mirrors : slots.Mirrors cache) (operations : List Cache.Operation) :
    (slots.run operations).Mirrors (cache.run operations) := by
  -- The induction is on the operations, for any state of both sides.
  induction operations generalizing slots cache with
  | nil => exact mirrors
  | cons operation rest ih => exact ih (mirrors.operate operation).1

end Mirrors

end Slots

end ControlPlane
