import ControlPlane.Config.Basic
import ControlPlane.Files
import ControlPlane.Tls.Certificate
import ControlPlane.Tls.PrivateKey

/-! What a server shows to its clients: certificates, and the private key of the first. -/

namespace ControlPlane.Tls

/-- The bytes of a server's certificate file, key file, and perhaps of the authority that clients
must show. -/
structure Material where
  certificate : ByteArray
  key : ByteArray
  clientAuthority : Option ByteArray

namespace Material

/-- Reads the certificate and its key, in this order. -/
def readIdentity (files : Files) (paths : TlsFiles) : Except Error Material := do
  let certificate ← files.read "certificate" paths.certificate
  let key ← files.read "private key" paths.key
  return ⟨certificate, key, none⟩

/-- Reads all files, the authority last. -/
def read (files : Files) (paths : TlsFiles) : Except Error Material := do
  let material ← readIdentity files paths
  match paths.clientAuthority with
  | some path => return { material with clientAuthority := some (← files.read "client CA" path) }
  | none => return material

end Material

/-- What is wrong with a server's material. -/
inductive Fault where
  | certificateFile
  | noCertificates
  | keyFile
  /-- The key cannot be used, or is not the one of the first certificate. -/
  | keyPair
  | authority
deriving DecidableEq, Repr

/-- The public key of a private key in the form of certificates. -/
def PrivateKey.Public.inCertificate? : PrivateKey.Public → Option Der.Bytes
  | .known algorithm key =>
    some (Der.write .sequence algorithm ++ Der.write .bits (0 :: key))
  | .unknown => none

/-- Whether a private key belongs to a certificate; one whose public key is unknown may. -/
def belongs (part : Section) (certificate : Der.Bytes) : Bool :=
  match PrivateKey.public? part with
  | none => false
  | some found =>
    match found.inCertificate? with
    | none => (Certificate.publicKey? certificate).isSome
    | some key => Certificate.publicKey? certificate == some key

/-- Checks that material holds certificates, and the private key of the first. -/
def checkIdentity (material : Material) : Except Fault Unit :=
  match Pem.certificates? material.certificate with
  | none => .error .certificateFile
  | some [] => .error .noCertificates
  | some (first :: _) =>
    match Pem.key? material.key with
    | none => .error .keyFile
    | some key => if belongs key first then .ok () else .error .keyPair

/-- Checks that the authority for clients, if there is one, holds a certificate. -/
def checkAuthority (material : Material) : Except Fault Unit :=
  match material.clientAuthority with
  | none => .ok ()
  | some file =>
    match Pem.certificates? file with
    | some certificates =>
      if certificates.any fun certificate => (Certificate.publicKey? certificate).isSome then .ok ()
      else .error .authority
    | none => .error .authority

/-- The failure of the administrative server for a fault of its material. -/
def Fault.toError (paths : TlsFiles) : Fault → Error
  | .certificateFile =>
    .config ("invalid certificate PEM '" ++ paths.certificate ++ "': malformed section")
  | .noCertificates =>
    .config ("certificate file '" ++ paths.certificate ++ "' contains no certificates")
  | .keyFile => .config ("invalid private key '" ++ paths.key ++ "': no usable section")
  | .keyPair => .config "Failed to load TLS certificate: the key does not fit"
  | .authority => .config "Failed to load TLS certificate: no authority for clients"

/-- Makes the administrative server ready for encrypted connections. -/
def secureAdmin (files : Files) (paths : TlsFiles) : Except Error Unit := do
  let material ← Material.readIdentity files paths
  match checkIdentity material with
  | .ok () => return ()
  | .error fault => throw (fault.toError paths)

/-- Makes the discovery server ready for encrypted connections; its faults have one text. -/
def secureDiscovery (files : Files) (paths : TlsFiles) : Except Error Unit := do
  let material ← Material.read files paths
  match checkAuthority material, checkIdentity material with
  | .ok (), .ok () => return ()
  | _, _ => throw (.transport "transport error")

end ControlPlane.Tls
