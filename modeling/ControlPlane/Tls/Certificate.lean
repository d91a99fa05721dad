import ControlPlane.Tls.Der

/-! Certificates: what a server checks of its own before it shows it. -/

namespace ControlPlane.Tls.Certificate

open Der (Bytes Tag)

/-- The last parts of the extensions that are understood, all of which begin alike. -/
def understood : List UInt8 := [15, 17, 19, 30, 31, 37]

/-- The extension that is a row of bits; the others are sequences. -/
def keyUsage : UInt8 := 15

/-- Whether an extension is marked as critical, and the bytes after the mark. -/
def critical? (bytes : Bytes) : Option (Bool × Bytes) := do
  match ← Der.optional? .boolean bytes with
  | (none, rest) => return (false, rest)
  | (some [0xff], rest) => return (true, rest)
  | (some [0x00], rest) => return (false, rest)
  | _ => none

/-- The extension that is understood, if one is; a critical one must be. -/
def extension? (contents : Bytes) : Option (Option UInt8) := do
  let (name, rest) ← Der.element? .identifier contents
  let (critical, rest) ← critical? rest
  let value ← Der.only? .octets rest
  let known := match name with
    | [0x55, 0x1d, last] => if understood.contains last then some last else none
    | _ => none
  match known with
  | some last =>
    if last = keyUsage then return some last
    else
      let _ ← Der.only? .sequence value
      return some last
  | none => if critical then none else return none

/-- Whether some extensions follow, of which no one that is understood comes twice.

The fuel is how many bytes there are. -/
def areExtensions : Nat → List UInt8 → Bytes → Bool
  | 0, _, _ => false
  | fuel + 1, seen, bytes =>
    match Der.element? .sequence bytes with
    | none => false
    | some (contents, rest) =>
      match extension? contents with
      | none => false
      | some known =>
        known.all (!seen.contains ·) &&
          (rest.isEmpty || areExtensions fuel (known.toList ++ seen) rest)

/-- Whether what follows the key of a certificate is nothing, or its extensions. -/
def closes (bytes : Bytes) : Bool :=
  bytes.isEmpty ||
    match (Der.only? (.context 3) bytes).bind (Der.only? .sequence) with
    | some extensions => areExtensions extensions.length [] extensions
    | none => false

/-- The public key in a certificate with its algorithm, if the certificate is well formed. -/
def publicKey? (certificate : Bytes) : Option Bytes := do
  let outer ← Der.only? .sequence certificate
  let (body, rest) ← Der.element? .sequence outer
  let (algorithm, rest) ← Der.element? .sequence rest
  let (_, rest) ← Der.wholeBits? rest
  if !rest.isEmpty then none
  let (version, fields) ← Der.element? (.context 0) body
  let (number, versionRest) ← Der.nat? version
  -- Only the third version has extensions; earlier ones are refused.
  if number ≠ 2 ∨ !versionRest.isEmpty then none
  let (_, fields) ← Der.element? .integer fields
  let (signature, fields) ← Der.element? .sequence fields
  if signature ≠ algorithm then none
  let (_, fields) ← Der.element? .sequence fields
  let (_, fields) ← Der.element? .sequence fields
  let (_, fields) ← Der.element? .sequence fields
  let (key, fields) ← Der.element? .sequence fields
  if closes fields then return key else none

end ControlPlane.Tls.Certificate
