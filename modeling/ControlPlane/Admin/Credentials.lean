import ControlPlane.Hash.Sha256
import ControlPlane.Text.Base64
import ControlPlane.Text.Blank

/-! Who may use the administrative interface, and how a request says who sends it. -/

namespace ControlPlane.Admin

/-- A name and a password that a request gives. -/
structure Credentials where
  user : String
  password : String
deriving DecidableEq, Repr

namespace Credentials

/-- The name and the password in a text; the first colon ends the name. -/
def ofText? (text : String) : Option Credentials :=
  (Text.cutFirst? [':'] text.toList).map fun (user, password) =>
    ⟨String.ofList user, String.ofList password⟩

/-- The credentials in the header of a request, in Base64 after the name of the scheme. -/
def ofHeader? (header : String) : Option Credentials := do
  let cs := header.toList
  if Text.toLowerAscii (String.ofList (cs.take 5)) ≠ "basic" then none
  match cs.drop 5 with
  | ' ' :: rest =>
    let encoded := rest.dropWhile (· == ' ')
    -- Blanks alone are no credentials.
    if encoded.isEmpty then none
    let bytes ← Text.Base64.decode? true encoded
    ofText? (← String.fromUTF8? ⟨bytes.toArray⟩)
  | _ => none

end Credentials

/-- The administrator, whose password is kept only as its digest. -/
structure Administrator where
  name : String
  passwordDigest : List UInt8
deriving DecidableEq, Repr

namespace Administrator

/-- The digest of a password. -/
def digestOf (password : String) : List UInt8 := Sha256.digest password.toUTF8.toList

/-- The administrator with a name and a password. -/
def new (name password : String) : Administrator := ⟨name, digestOf password⟩

/-- Whether credentials are those of the administrator. -/
def accepts (administrator : Administrator) (credentials : Credentials) : Bool :=
  credentials.user == administrator.name &&
    digestOf credentials.password == administrator.passwordDigest

end Administrator

end ControlPlane.Admin
