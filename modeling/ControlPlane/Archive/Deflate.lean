import ControlPlane.Archive.Inflate

/-! Writing deflated data: one block of bytes and repetitions in the fixed code. -/

namespace ControlPlane.Deflate

/-- Bytes that are written bit by bit; the bits of the last byte wait until it is full. -/
structure Bits where
  out : ByteArray := .empty
  waiting : Nat := 0
  count : Nat := 0

namespace Bits

/-- Writes full bytes out. -/
def settle (out : ByteArray) (waiting : Nat) : (fuel count : Nat) → Bits
  | fuel + 1, count =>
    if 8 ≤ count then settle (out.push waiting.toUInt8) (waiting / 256) fuel (count - 8)
    else ⟨out, waiting, count⟩
  | 0, count => ⟨out, waiting, count⟩

/-- Adds a number of so many bits, least significant bit first. -/
def put (bits : Bits) (width value : Nat) : Bits :=
  settle bits.out (bits.waiting + value * Nat.pow 2 bits.count) (width + bits.count) (bits.count + width)

/-- The bits of a number of so many bits in reverse. -/
def mirrored : (width value : Nat) → Nat
  | 0, _ => 0
  | width + 1, value => value % 2 * Nat.pow 2 width + mirrored width (value / 2)

/-- Adds a code word, which is written from its most significant bit. -/
def putWord (bits : Bits) (width word : Nat) : Bits := bits.put width (mirrored width word)

/-- Adds a symbol of the fixed code of literals and lengths. -/
def putSymbol (bits : Bits) (symbol : Nat) : Bits :=
  if symbol < 144 then bits.putWord 8 (48 + symbol)
  else if symbol < 256 then bits.putWord 9 (400 + (symbol - 144))
  else if symbol < 280 then bits.putWord 7 (symbol - 256)
  else bits.putWord 8 (192 + (symbol - 280))

/-- The last step that is not greater than a number, with its symbol. -/
def stepOf (steps : Array (Nat × Nat)) (n : Nat) : Nat × Nat × Nat :=
  (steps.toList.zipIdx.takeWhile fun p => p.1.1 ≤ n).getLast?.elim (0, 0, 0)
    fun p => (p.2, p.1.1, p.1.2)

/-- Adds a repetition. -/
def putRepetition (bits : Bits) (length distance : Nat) : Bits :=
  let (lengthSymbol, leastLength, lengthWidth) := stepOf Inflate.lengthSteps length
  let (distanceSymbol, leastDistance, distanceWidth) := stepOf Inflate.distanceSteps distance
  (((bits.putSymbol (257 + lengthSymbol)).put lengthWidth (length - leastLength)).putWord 5
    distanceSymbol).put distanceWidth (distance - leastDistance)

/-- All bytes, the last one filled up with zeros. -/
def bytes (bits : Bits) : ByteArray :=
  if bits.count = 0 then bits.out else bits.out.push bits.waiting.toUInt8

end Bits

/-- The number of places in the table of what was seen. -/
def tableSize : Nat := 4096

/-- The place in the table for three bytes. -/
def place (data : ByteArray) (i : Nat) : Nat :=
  let b (k : Nat) : Nat := (data[i + k]?.getD 0).toNat
  (b 0 * 961 + b 1 * 31 + b 2) % tableSize

/-- How many bytes from two places on are equal, up to a number. -/
def matching (data : ByteArray) : (most i j : Nat) → Nat
  | 0, _, _ => 0
  | most + 1, i, j =>
    match data[i]?, data[j]? with
    | some a, some b => if a = b then matching data most (i + 1) (j + 1) + 1 else 0
    | _, _ => 0

/-- Adds the bytes from a place on; the table says, plus one, where their like was seen last. -/
def items (data : ByteArray) : (fuel i : Nat) → (seen : Array Nat) → Bits → Bits
  | 0, _, _, bits => bits
  | fuel + 1, i, seen, bits =>
    match data[i]? with
    | none => bits
    | some b =>
      let here := place data i
      let before := seen.getD here 0
      let seen := seen.setIfInBounds here (i + 1)
      let length := if before = 0 then 0 else matching data 258 (before - 1) i
      let distance := i - (before - 1)
      if 3 ≤ length ∧ distance ≤ 32768 then
        items data fuel (i + length) seen (bits.putRepetition length distance)
      else items data fuel (i + 1) seen (bits.putSymbol b.toNat)

/-- Deflated data that stand for some bytes. -/
def deflate (data : ByteArray) : ByteArray :=
  -- One block, which is the last one and uses the fixed code.
  let head := (({} : Bits).put 1 1).put 2 1
  ((items data data.size 0 (Array.replicate tableSize 0) head).putSymbol 256).bytes

end ControlPlane.Deflate
