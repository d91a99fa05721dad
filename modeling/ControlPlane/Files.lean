import ControlPlane.Error

/-! Files, as far as the control plane sees them: their bytes by their paths. -/

namespace ControlPlane

/-- The contents of the files that exist. -/
abbrev Files := String → Option ByteArray

namespace Files

/-- The failure to read a file, with the reason. -/
def unreadable (what path reason : String) : Error :=
  .config ("failed to read " ++ what ++ " '" ++ path ++ "': " ++ reason)

/-- The bytes of a file. -/
def read (files : Files) (what path : String) : Except Error ByteArray :=
  match files path with
  | some bytes => .ok bytes
  | none => .error (unreadable what path "No such file or directory (os error 2)")

/-- The characters of a file. -/
def readText (files : Files) (what path : String) : Except Error String := do
  match String.fromUTF8? (← files.read what path) with
  | some text => return text
  | none => throw (unreadable what path "stream did not contain valid UTF-8")

end Files

end ControlPlane
