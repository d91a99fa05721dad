import ControlPlane.Tls.Curve
import ControlPlane.Tls.Pem

/-! Private keys, and the public keys that belong to them. -/

namespace ControlPlane.Tls.PrivateKey

open Der (Bytes Tag)

/-- What is known of the public key of a private key. -/
inductive Public where
  /-- The algorithm, and the key in the form that certificates give it. -/
  | known (algorithm key : Bytes)
  | unknown
deriving DecidableEq, Repr

/-- The algorithm of RSA keys. -/
def rsaAlgorithm : Bytes :=
  [0x06, 0x09, 0x2a, 0x86, 0x48, 0x86, 0xf7, 0x0d, 0x01, 0x01, 0x01, 0x05, 0x00]

/-- The algorithm of the keys of a curve. -/
def curveAlgorithm (curve : Curve) : Bytes :=
  [0x06, 0x07, 0x2a, 0x86, 0x48, 0xce, 0x3d, 0x02, 0x01] ++ curve.identifier

/-- The algorithm of Edwards keys. -/
def edwardsAlgorithm : Bytes := [0x06, 0x03, 0x2b, 0x65, 0x70]

/-- Reads the numbers of a list one after the other; the answer has as many. -/
def nats? : Nat → Bytes → Option (List Nat × Bytes)
  | 0, bytes => some ([], bytes)
  | count + 1, bytes => do
    let (n, rest) ← Der.nat? bytes
    let (ns, rest) ← nats? count rest
    return (n :: ns, rest)

/-- How many bits a number has. -/
def bitLength (n : Nat) : Nat := if n = 0 then 0 else n.log2 + 1

/-- The public key of an RSA key whose numbers fit together. -/
def rsa? (contents : Bytes) : Option Public := do
  match ← nats? 9 (← Der.only? .sequence contents) with
  | ([version, n, e, d, p, q, dp, dq, inverse], []) =>
    let bits := bitLength n
    let isSound := version == 0 && 2041 ≤ bits && bits ≤ 4096 && n == p * q &&
      bitLength p == bitLength q && 2 * bitLength p == bits &&
      65537 ≤ e && e < Nat.pow 2 33 && e % 2 == 1 && d < n && d % 2 == 1 &&
      dp < p && dp % 2 == 1 && dq < q && dq % 2 == 1 &&
      inverse < p && inverse * q % p == 1
    if isSound then
      return .known rsaAlgorithm (Der.write .sequence (Der.writeNat n ++ Der.writeNat e))
    else none
  | _ => none

/-- The public key that an elliptic key states, which must be the right one. -/
def elliptic? (curve : Curve) (contents : Bytes) : Option Public := do
  let (version, rest) ← Der.nat? (← Der.only? .sequence contents)
  let (secret, rest) ← Der.element? .octets rest
  let (parameters, rest) ← Der.optional? (.context 0) rest
  let (point, rest) ← Der.wholeBits? (← Der.only? (.context 1) rest)
  let factor := Der.natOf secret
  let isSound := version == 1 && secret.length == curve.size && 0 < factor &&
    factor < curve.order && parameters.all (· == curve.identifier) && rest.isEmpty &&
    point.length == 2 * curve.size + 1 && point.head? == some 4 &&
    curve.isKeyPair factor (Der.natOf (point.drop 1 |>.take curve.size))
      (Der.natOf (point.drop (curve.size + 1)))
  if isSound then return .known (curveAlgorithm curve) point else none

/-- A key of any algorithm: its version, algorithm, contents, and what follows them. -/
def envelope? (contents : Bytes) : Option (Nat × Bytes × Bytes × Bytes) := do
  let (version, rest) ← Der.nat? (← Der.only? .sequence contents)
  let (algorithm, rest) ← Der.element? .sequence rest
  let (key, rest) ← Der.element? .octets rest
  let (_, rest) ← Der.optional? (.context 0) rest
  return (version, algorithm, key, rest)

/-- The public key that an Edwards key states, if it states one. -/
def edwards? (version : Nat) (key rest : Bytes) : Option Public := do
  let seed ← Der.only? .octets key
  if seed.length ≠ 32 then none
  else if version = 0 ∧ rest.isEmpty then return .unknown
  else
    match ← Der.element? ⟨0x81⟩ rest with
    | (0 :: point, []) =>
      if version = 1 ∧ point.length = 32 then return .known edwardsAlgorithm point else none
    | _ => none

/-- The public key of a key whose contents state the algorithm. -/
def enveloped? (contents : Bytes) : Option Public := do
  let (version, algorithm, key, rest) ← envelope? contents
  if algorithm = edwardsAlgorithm then edwards? version key rest
  else if version ≠ 0 ∨ !rest.isEmpty then none
  else if algorithm = rsaAlgorithm then rsa? key
  else if algorithm = curveAlgorithm .p256 then elliptic? .p256 key
  else if algorithm = curveAlgorithm .p384 then elliptic? .p384 key
  else none

/-- The public key of a private key in a section of a file. -/
def public? (part : Section) : Option Public :=
  if part.label = "RSA PRIVATE KEY" then rsa? part.contents
  else if part.label = "EC PRIVATE KEY" then
    (elliptic? .p256 part.contents).or (elliptic? .p384 part.contents)
  else enveloped? part.contents

end ControlPlane.Tls.PrivateKey
