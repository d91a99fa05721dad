import ControlPlane.Discovery.Cache

/-! The channels behind the cache: each known label has one, and watchers hold on to theirs.

A channel that is let go stays what it is for those that hold it, so whoever held one that its label
no longer has would miss all that is published to the label later. -/

namespace ControlPlane

/-- A channel on which snapshots are published. -/
structure Channel where
  value : Snapshot
  /-- How often something was sent. -/
  sends : Nat := 0
deriving DecidableEq, Repr

/-- The end of a channel that a watcher holds. -/
structure Receiver where
  /-- Which of all channels it is. -/
  channel : Nat
  /-- How often something had been sent when the watcher last looked. -/
  seen : Nat
deriving DecidableEq, Repr

/-- All channels that were ever made, those that the known labels have, and the watchers by their
names. -/
structure Slots where
  channels : List Channel := []
  slots : OrderedMap Label Nat := .empty
  receivers : OrderedMap String Receiver := .empty

namespace Slots

/-- A channel by its number. -/
def channel (slots : Slots) (number : Nat) : Channel :=
  slots.channels.getD number ⟨.initial .default, 0⟩

/-- Gives a label a new channel. -/
def enter (slots : Slots) (label : Label) : Slots :=
  { slots with
    channels := slots.channels ++ [⟨.initial label, 0⟩]
    slots := slots.slots.insert label slots.channels.length }

/-- The channel of a label, which gets a new one if it is not known. -/
def slot (slots : Slots) (label : Label) : Slots × Nat :=
  match slots.slots.get? label with
  | some number => (slots, number)
  | none => (slots.enter label, slots.channels.length)

/-- Sends a snapshot on a channel. -/
def send (slots : Slots) (number : Nat) (snapshot : Snapshot) : Slots :=
  { slots with
    channels := slots.channels.set number ⟨snapshot, (slots.channel number).sends + 1⟩ }

/-- Publishes resources on the channel of a label, at the version after the one that is there. -/
def publish (slots : Slots) (label : Label) (resources : ResourceSet) : Slots × Snapshot :=
  let (slots, number) := slots.slot label
  let snapshot : Snapshot := ⟨label, (slots.channel number).value.version + 1, resources⟩
  (slots.send number snapshot, snapshot)

/-- Gives a watcher an end of a channel, on which it has seen all that was sent so far. -/
def attach (slots : Slots) (name : String) (number : Nat) : Slots :=
  { slots with receivers := slots.receivers.insert name ⟨number, (slots.channel number).sends⟩ }

/-- What a watcher has to look at on the end that it holds, and whether it is new. -/
def news (slots : Slots) (receiver : Receiver) : Bool × Snapshot :=
  let channel := slots.channel receiver.channel
  (channel.sends != receiver.seen, channel.value)

/-- Notes that a watcher has looked. -/
def look (slots : Slots) (name : String) : Slots :=
  match slots.receivers.get? name with
  | none => slots
  | some receiver => slots.attach name receiver.channel

/-- Whether a watcher holds an end of a channel. -/
def isHeld (slots : Slots) (number : Nat) : Bool :=
  slots.receivers.values.any fun receiver => receiver.channel = number

/-- Whether a label is known, nothing was published to it, and no watcher holds its channel. Between
two operations nobody else does either. -/
def isIdle (slots : Slots) (label : Label) : Bool :=
  match slots.slots.get? label with
  | some number => !slots.isHeld number && (slots.channel number).value.version = 0
  | none => false

/-- Lets go of the channel of a label that is idle. -/
def release (slots : Slots) (label : Label) : Slots :=
  if slots.isIdle label then { slots with slots := slots.slots.erase label } else slots

/-- Carries out an operation. -/
def operate (slots : Slots) : Cache.Operation → Slots × Cache.Answer
  | .publish label resources =>
    let (next, snapshot) := slots.publish label resources
    (next, .snapshot snapshot)
  | .snapshot label =>
    let (next, number) := slots.slot label
    (next, .snapshot (next.channel number).value)
  | .subscribe name label =>
    let (next, number) := slots.slot label
    (next.attach name number, .snapshot (next.channel number).value)
  | .look name => (slots.look name, .seen ((slots.receivers.get? name).map slots.news))
  | .unsubscribe name =>
    ({ slots with receivers := slots.receivers.erase name }, .gone (slots.receivers.has name))
  | .release label => (slots.release label, .gone (slots.isIdle label))
  | .labels => (slots, .labels slots.slots.keys)

/-- The state after operations, one after the other. -/
def run (slots : Slots) (operations : List Cache.Operation) : Slots :=
  operations.foldl (fun slots operation => (slots.operate operation).1) slots

end Slots

end ControlPlane
