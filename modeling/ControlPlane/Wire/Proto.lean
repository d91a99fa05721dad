/-! The wire form of messages: numbered fields, each a variable-length number or counted bytes. -/

namespace ControlPlane.Proto

/-- A number in groups of seven bits, least significant first, all but the last marked. -/
def varint (n : Nat) : List UInt8 :=
  if n < 128 then [n.toUInt8] else (n % 128 + 128).toUInt8 :: varint (n / 128)

/-- One field of a message. -/
inductive Field where
  | number (tag value : Nat)
  | bytes (tag : Nat) (value : List UInt8)
deriving DecidableEq, Repr

/-- The fields of a message in the order in which they are written. -/
abbrev Message := List Field

/-- The written form of a field: its tag and kind, and its value. -/
def Field.encode : Field → List UInt8
  | .number tag value => varint (tag * 8) ++ varint value
  | .bytes tag value => varint (tag * 8 + 2) ++ varint value.length ++ value

/-- The written form of a message. -/
def Message.encode (message : Message) : List UInt8 := message.flatMap Field.encode

/-- A number, which is left out when it is zero. -/
def number (tag value : Nat) : Message := if value = 0 then [] else [.number tag value]

/-- A number that is always written. -/
def numberAlways (tag value : Nat) : Message := [.number tag value]

/-- A text that is always written. -/
def textAlways (tag : Nat) (value : String) : Message := [.bytes tag value.toUTF8.toList]

/-- A text, which is left out when it is empty. -/
def text (tag : Nat) (value : String) : Message :=
  if value.isEmpty then [] else textAlways tag value

/-- A message inside another, which is always written. -/
def message (tag : Nat) (value : Message) : Message := [.bytes tag value.encode]

end ControlPlane.Proto
