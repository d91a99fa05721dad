/-! Nested elements of a tag, a length and contents, each with one way to write it. -/

namespace ControlPlane.Tls.Der

/-- Bytes of an element or of several. -/
abbrev Bytes := List UInt8

/-- The tags of the elements that are read. -/
structure Tag where
  code : UInt8
deriving DecidableEq, Repr

namespace Tag

/-- A truth value. -/
def boolean : Tag := ⟨0x01⟩
/-- A whole number. -/
def integer : Tag := ⟨0x02⟩
/-- A row of bits. -/
def bits : Tag := ⟨0x03⟩
/-- A row of bytes. -/
def octets : Tag := ⟨0x04⟩
/-- The name of a kind of things. -/
def identifier : Tag := ⟨0x06⟩
/-- Elements one after the other. -/
def sequence : Tag := ⟨0x30⟩
/-- The element of a number that only its place gives a meaning. -/
def context (n : UInt8) : Tag := ⟨0xA0 + n⟩

end Tag

/-- The number that bytes denote, the first being the most significant. -/
def natOf (bytes : Bytes) : Nat := bytes.foldl (fun n b => n * 256 + b.toNat) 0

/-- A length below 65535 in its shortest form, and the bytes after it. -/
def length? : Bytes → Option (Nat × Bytes)
  | 0x81 :: a :: rest => if a < 128 then none else some (a.toNat, rest)
  | 0x82 :: a :: b :: rest =>
    let n := natOf [a, b]
    if n < 256 ∨ n = 65535 then none else some (n, rest)
  | n :: rest => if n < 128 then some (n.toNat, rest) else none
  | [] => none

/-- The contents of an element with a tag at the head of some bytes, and the bytes after it. -/
def element? (tag : Tag) : Bytes → Option (Bytes × Bytes)
  | code :: rest =>
    if code = tag.code then
      (length? rest).bind fun (length, rest) =>
        if length ≤ rest.length then some (rest.take length, rest.drop length) else none
    else none
  | [] => none

/-- The contents of an element that is all there is. -/
def only? (tag : Tag) (bytes : Bytes) : Option Bytes :=
  (element? tag bytes).bind fun (contents, rest) => if rest.isEmpty then some contents else none

/-- Whether an element with a tag comes next. -/
def startsWith (tag : Tag) (bytes : Bytes) : Bool := bytes.head? == some tag.code

/-- The contents of an element that may be left out, and the bytes after it. -/
def optional? (tag : Tag) (bytes : Bytes) : Option (Option Bytes × Bytes) :=
  if startsWith tag bytes then
    (element? tag bytes).map fun (contents, rest) => (some contents, rest)
  else some (none, bytes)

/-- A number that is not negative, in its shortest form, and the bytes after it. -/
def nat? (bytes : Bytes) : Option (Nat × Bytes) :=
  (element? .integer bytes).bind fun (contents, rest) =>
    match contents with
    | [] => none
    | [a] => if a < 128 then some (a.toNat, rest) else none
    | a :: b :: _ =>
      if (a = 0 ∧ b < 128) ∨ 128 ≤ a then none else some (natOf contents, rest)

/-- Bits that fill whole bytes, and the bytes after them. -/
def wholeBits? (bytes : Bytes) : Option (Bytes × Bytes) :=
  (element? .bits bytes).bind fun (contents, rest) =>
    match contents with
    | 0 :: bits => some (bits, rest)
    | _ => none

/-- The shortest form of a length below 65536. -/
def lengthBytes (n : Nat) : Bytes :=
  if n < 128 then [n.toUInt8]
  else if n < 256 then [0x81, n.toUInt8]
  else [0x82, (n / 256).toUInt8, n.toUInt8]

/-- An element with its tag and length. -/
def write (tag : Tag) (contents : Bytes) : Bytes :=
  tag.code :: lengthBytes contents.length ++ contents

/-- The digits of a number to the base of 256; the fuel bounds how many. -/
def digits : Nat → Nat → Bytes
  | 0, _ => []
  | fuel + 1, n => if n = 0 then [] else digits fuel (n / 256) ++ [n.toUInt8]

/-- A number that is not negative, as an element. -/
def writeNat (n : Nat) : Bytes :=
  let shortest := digits (n.log2 / 8 + 1) n
  let signed := match shortest with
    | a :: _ => if a < 128 then shortest else 0 :: shortest
    | [] => [0]
  write .integer signed

end ControlPlane.Tls.Der
