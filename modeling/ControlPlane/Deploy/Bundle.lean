import ControlPlane.Archive.Directory
import ControlPlane.Error
import ControlPlane.Text.Blank

/-! Bundles: archives of API documents, which are read up to a limit on their size unpacked. -/

namespace ControlPlane.Bundle

/-- What an archive gives for an entry. -/
inductive Access where
  /-- The archive cannot give the contents. -/
  | refused
  /-- The size that is declared, and the first bytes of the contents, at most so many, if they can
  be read. -/
  | granted (declaredSize : Nat) (take : Nat → Option ByteArray)

/-- An entry of an archive. -/
structure Entry where
  name : String
  isDirectory : Bool
  access : Access

/-- A document of a bundle. -/
structure Document where
  name : String
  contents : ByteArray

/-- Why the documents of a bundle cannot be read. -/
inductive Fault where
  /-- The bytes are no archive, or have an entry that the archive cannot give. -/
  | notAnArchive
  | unreadable (name : String)
  /-- The document at which the documents together exceed the limit. -/
  | tooLarge (name : String) (limit : Nat)
  | noDocuments
  /-- The count of bytes to read of a document is no word of 64 bits: the work breaks off there, and
  nobody gets a report on it. -/
  | overflow
deriving DecidableEq, Repr

/-- A fault of a bundle as a failure of the control plane, if it is reported at all. -/
def Fault.toError : Fault → Option Error
  | .notAnArchive =>
    some (.input "invalid API bundle archive: the bytes are no zip archive that can be read")
  | .unreadable name =>
    some (.inputAt name
      "unreadable archive entry: the contents do not agree with the archive's directory")
  | .tooLarge name limit =>
    some (.inputAt name ("archive documents exceed " ++ String.ofList (Nat.toDigits 10 limit) ++
      " bytes once decompressed"))
  | .noDocuments => some (.input "archive contains no API documents")
  | .overflow => none

/-- The extensions of documents. -/
def extensions : List String := ["json", "yaml", "yml"]

/-- The directory in which archives keep the metadata of a desktop. -/
def metadataDirectory : String := "__MACOSX"

/-- What stands behind the last point of a text. -/
def extension? (cs : List Char) : Option (List Char) :=
  match Text.cutAt (· == '.') cs with
  | [] | [_] => none
  | _ :: pieces => pieces.getLast?

/-- Whether an entry with a name is a document: it has the extension of one, in any case, and is
not in a metadata directory. -/
def isDocument (name : String) : Bool :=
  let cs := name.toList
  !(Text.cutAt (· == '/') cs).contains metadataDirectory.toList &&
    (extension? cs).any fun ext => extensions.contains (String.ofList (ext.map Text.lowerAscii))

/-- The documents among the entries of an archive, of which the unpacked size may be so much. -/
def documents (limit : Nat) : (remaining : Nat) → List Entry → Except Fault (List Document)
  | _, [] => .ok []
  | remaining, entry :: rest =>
    match entry.access with
    | .refused => .error .notAnArchive
    | .granted declaredSize take =>
      if entry.isDirectory || !isDocument entry.name then documents limit remaining rest
      else if remaining < declaredSize then .error (.tooLarge entry.name limit)
      else if UInt64.size ≤ remaining + 1 then .error .overflow
      else
        -- Reading one byte too many shows an excess.
        match take (remaining + 1) with
        | none => .error (.unreadable entry.name)
        | some contents =>
          if remaining < contents.size then .error (.tooLarge entry.name limit)
          else (documents limit (remaining - contents.size) rest).map (⟨entry.name, contents⟩ :: ·)

/-- The documents among the entries of an archive, of which there must be one. -/
def extract (limit : Nat) (entries : List Entry) : Except Fault (List Document) := do
  let found ← documents limit limit entries
  if found.isEmpty then .error .noDocuments else .ok found

/-- An entry of an archive of some bytes. -/
def Entry.ofMember (bytes : ByteArray) (member : Archive.Member) : Entry :=
  { name := member.name
    isDirectory := member.name.toList.getLast?.any fun c => c == '/' || c == '\\'
    access :=
      if member.isReadable then .granted member.declaredSize (member.take bytes) else .refused }

/-- The documents in the bytes of an archive. -/
def read (limit : Nat) (bytes : ByteArray) : Except Fault (List Document) :=
  match Archive.members bytes with
  | none => .error .notAnArchive
  | some members => extract limit (members.map (Entry.ofMember bytes))

end ControlPlane.Bundle
