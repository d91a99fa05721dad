import ControlPlane.Archive.Crc32
import ControlPlane.Archive.Inflate
import ControlPlane.Archive.Name

/-! Zip archives: the directory at the end of the bytes, and the contents of the entries it lists. -/

namespace ControlPlane.Archive

/-- The number in so many bytes from a place on, least significant byte first. -/
def number? (bytes : ByteArray) : (width place : Nat) → Option Nat
  | 0, _ => some 0
  | width + 1, place => do
    let low ← bytes[place]?
    let high ← number? bytes width (place + 1)
    return low.toNat + 256 * high

/-- The marks at the head of the three kinds of records. -/
def localMark : Nat := 0x04034b50
/-- The mark of an entry's record in the directory. -/
def entryMark : Nat := 0x02014b50
/-- The mark of the record at the end of an archive. -/
def endMark : Nat := 0x06054b50

/-- Whether a mark stands at a place. -/
def hasMark (bytes : ByteArray) (mark place : Nat) : Bool := number? bytes 4 place == some mark

/-- An entry as the directory lists it. -/
structure Member where
  name : String
  isEncrypted : Bool
  method : Nat
  checksum : Nat
  /-- The size in the archive. -/
  packedSize : Nat
  /-- The size that the directory declares for the contents. -/
  declaredSize : Nat
  /-- Where the packed contents begin. -/
  start : Nat
deriving Repr

/-- Where the contents behind the local record at a place begin. -/
def contentsStart? (bytes : ByteArray) (place : Nat) : Option Nat :=
  if hasMark bytes localMark place then do
    let nameLength ← number? bytes 2 (place + 26)
    let extraLength ← number? bytes 2 (place + 28)
    return place + 30 + nameLength + extraLength
  else none

/-- What a field of four bytes holds when its number is too great for it. -/
def tooWide : Nat := 0xFFFFFFFF

/-- The numbers of some fields, from eight bytes each from a place on where the field is too small. -/
def widen (bytes : ByteArray) (every : Bool) : (fields : List Nat) → (place : Nat) → Option (List Nat)
  | [], _ => some []
  | field :: rest, place =>
    if every || field = tooWide then do
      let wide ← number? bytes 8 place
      return wide :: (← widen bytes every rest (place + 8))
    else do return field :: (← widen bytes every rest place)

/-- The numbers of some fields, from the extra field that holds those which are too great. -/
def wideNumbers (bytes : ByteArray) (fields : List Nat) :
    (fuel place size : Nat) → Option (List Nat)
  | 0, _, _ => some fields
  | fuel + 1, place, size =>
    if size < 4 then some fields
    else do
      let kind ← number? bytes 2 place
      let length ← number? bytes 2 (place + 2)
      if kind = 1 then
        let every := 24 ≤ length
        let count := if every then fields.length else fields.count tooWide
        if length < 8 * count then none else widen bytes every fields (place + 4)
      else wideNumbers bytes fields fuel (place + 4 + length) (size - (4 + length))

/-- The entry whose directory record is at a place, and the place behind that record.

The archive begins `shift` bytes after the place from which its records count, and the contents
lie in front of the directory. -/
def member? (bytes : ByteArray) (shift directory place : Nat) : Option (Member × Nat) :=
  if hasMark bytes entryMark place then do
    let flags ← number? bytes 2 (place + 8)
    let method ← number? bytes 2 (place + 10)
    let checksum ← number? bytes 4 (place + 16)
    let packedSize ← number? bytes 4 (place + 20)
    let declaredSize ← number? bytes 4 (place + 24)
    let nameLength ← number? bytes 2 (place + 28)
    let extraLength ← number? bytes 2 (place + 30)
    let commentLength ← number? bytes 2 (place + 32)
    let offset ← number? bytes 4 (place + 42)
    let nameEnd := place + 46 + nameLength
    let behind := nameEnd + extraLength + commentLength
    if bytes.size < behind then none
    else
      let fields := [declaredSize, packedSize, offset]
      match ← wideNumbers bytes fields (extraLength + 1) nameEnd extraLength with
      | [declaredSize, packedSize, offset] =>
        let start ← contentsStart? bytes (offset + shift)
        if directory ≤ offset + shift ∨ directory < start then none
        else
          let name := nameOf (flags / 2048 % 2 = 1) (bytes.extract (place + 46) nameEnd)
          return (⟨name, flags % 2 = 1, method, checksum, packedSize, declaredSize, start⟩, behind)
      | _ => none
  else none

/-- So many entries whose directory records follow each other. -/
def members? (bytes : ByteArray) (shift directory : Nat) : (count place : Nat) → Option (List Member)
  | 0, _ => some []
  | count + 1, place => do
    let (member, behind) ← member? bytes shift directory place
    return member :: (← members? bytes shift directory count behind)

/-- The first place of so many at which a mark stands. -/
def findMark? (bytes : ByteArray) (mark : Nat) : (count place : Nat) → Option Nat
  | 0, _ => none
  | count + 1, place =>
    if hasMark bytes mark place then some place else findMark? bytes mark count (place + 1)

/-- The entries of an archive whose end record is at a place.

Bytes in front of the archive shift everything in it; the first directory record shows how far. -/
def directoryAt? (bytes : ByteArray) (place : Nat) : Option (List Member) :=
  if hasMark bytes endMark place then do
    let disk ← number? bytes 2 (place + 4)
    let directoryDisk ← number? bytes 2 (place + 6)
    let countHere ← number? bytes 2 (place + 8)
    let count ← number? bytes 2 (place + 10)
    let offset ← number? bytes 4 (place + 16)
    let commentLength ← number? bytes 2 (place + 20)
    if bytes.size < place + 22 + commentLength ∨ disk ≠ directoryDisk then none
    else if count = 0 then
      let directory := max offset place
      members? bytes (place - offset) directory countHere directory
    else
      let directory ← findMark? bytes entryMark (place - 3 - offset) offset
      members? bytes (directory - offset) directory countHere directory
  else none

/-- The entries of the archive whose end record is the last one below a place that can be read. -/
def directoryBelow? (bytes : ByteArray) : (place : Nat) → Option (List Member)
  | 0 => none
  | place + 1 => (directoryAt? bytes place).or (directoryBelow? bytes place)

/-- Adds an entry: in the place of one with its name, else at the end. -/
def Member.join (member : Member) : List Member → List Member
  | [] => [member]
  | first :: rest =>
    if first.name = member.name then member :: rest else first :: member.join rest

/-- The entries of an archive in the order of its directory; of a repeated name, the last counts. -/
def members (bytes : ByteArray) : Option (List Member) :=
  (directoryBelow? bytes (bytes.size - 21)).map fun found =>
    found.foldl (fun kept member => member.join kept) []

namespace Member

/-- Whether the contents can be unpacked: they are not encrypted, and stored or deflated. -/
def isReadable (member : Member) : Bool :=
  !member.isEncrypted && (member.method = 0 || member.method = 8)

/-- The bytes of an entry as they are in the archive. -/
def packed (bytes : ByteArray) (member : Member) : ByteArray :=
  bytes.extract member.start (member.start + member.packedSize)

/-- The first bytes of the contents, at most so many, and why there are no more. -/
def unpack (bytes : ByteArray) (member : Member) (limit : Nat) : ByteArray × Inflate.Ending :=
  let packed := member.packed bytes
  if member.method = 8 then Inflate.inflate limit packed
  else (packed.extract 0 limit, if limit ≤ packed.size then .filled else .finished)

/-- The first bytes of the contents, at most so many.

Contents that are shorter must be sound, and agree with the check value of the directory. -/
def take (bytes : ByteArray) (member : Member) (limit : Nat) : Option ByteArray :=
  match member.unpack bytes limit with
  | (out, .filled) => some out
  | (_, .corrupt) => none
  | (out, _) => if (Crc32.checksum out).toNat = member.checksum then some out else none

end Member

end ControlPlane.Archive
