/-! The cyclic redundancy check of 32 bits by which archives guard their contents. -/

namespace ControlPlane.Crc32

/-- The generator polynomial, least significant bit first. -/
def polynomial : UInt32 := 0xedb88320

/-- A remainder after so many zero bits. -/
def shift : Nat → UInt32 → UInt32
  | 0, r => r
  | n + 1, r => shift n (if r &&& 1 = 1 then (r >>> 1) ^^^ polynomial else r >>> 1)

/-- The remainders of all bytes. -/
def table : Array UInt32 := Array.ofFn fun i : Fin 256 => shift 8 i.val.toUInt32

/-- A remainder after one more byte. -/
def step (r : UInt32) (b : UInt8) : UInt32 :=
  (r >>> 8) ^^^ table.getD ((r.toUInt8 ^^^ b).toNat) 0

/-- The check value of some bytes. -/
def checksum (bytes : ByteArray) : UInt32 := (bytes.foldl step 0xffffffff) ^^^ 0xffffffff

end ControlPlane.Crc32
