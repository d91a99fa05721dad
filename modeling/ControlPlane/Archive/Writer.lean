import ControlPlane.Archive.Deflate
import ControlPlane.Archive.Directory

/-! Writing zip archives: the entries, the directory that lists them, and the end record. -/

namespace ControlPlane.Archive

/-- An entry to write. -/
structure Item where
  name : String
  contents : ByteArray
  /-- Whether the contents are written as they are. -/
  isStored : Bool := false

/-- A number in so many bytes, least significant byte first. -/
def littleEndian : (width n : Nat) → List UInt8
  | 0, _ => []
  | width + 1, n => n.toUInt8 :: littleEndian width (n / 256)

/-- The bytes of numbers, each in its own width. -/
def numbers (fields : List (Nat × Nat)) : ByteArray :=
  ⟨(fields.flatMap fun (width, n) => littleEndian width n).toArray⟩

namespace Item

/-- The packed contents. -/
def packed (item : Item) : ByteArray :=
  if item.isStored then item.contents else Deflate.deflate item.contents

/-- The flag of names that are UTF-8, which is set where a name is not plain ASCII. -/
def flags (item : Item) : Nat := if item.name.toList.all fun c => c.val < 0x80 then 0 else 2048

/-- What the local record and the directory say alike. -/
def description (item : Item) : List (Nat × Nat) :=
  [(2, 20), (2, item.flags), (2, if item.isStored then 0 else 8), (2, 0), (2, 33),
    (4, (Crc32.checksum item.contents).toNat), (4, item.packed.size), (4, item.contents.size),
    (2, item.name.utf8ByteSize), (2, 0)]

/-- The local record and the packed contents behind it. -/
def record (item : Item) : ByteArray :=
  numbers ((4, localMark) :: item.description) ++ item.name.toUTF8 ++ item.packed

/-- The directory record of an entry whose local record is at a place. -/
def listing (item : Item) (place : Nat) : ByteArray :=
  numbers ((4, entryMark) :: (2, 20) :: item.description ++
    [(2, 0), (2, 0), (2, 0), (4, 0), (4, place)]) ++ item.name.toUTF8

end Item

/-- The records of some entries behind so many bytes, and the directory that lists them. -/
def records : (place : Nat) → List Item → ByteArray × ByteArray
  | _, [] => (.empty, .empty)
  | place, item :: rest =>
    let own := item.record
    let (later, listed) := records (place + own.size) rest
    (own ++ later, item.listing place ++ listed)

/-- The archive of some entries. -/
def write (items : List Item) : ByteArray :=
  let (contents, directory) := records 0 items
  contents ++ directory ++ numbers [(4, endMark), (2, 0), (2, 0), (2, items.length),
    (2, items.length), (4, directory.size), (4, contents.size), (2, 0)]

end ControlPlane.Archive
