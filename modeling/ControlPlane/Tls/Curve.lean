import ControlPlane.Tls.Der

/-! Elliptic curves y² = x³ - 3x + b over a prime field, and multiples of their base points. -/

namespace ControlPlane.Tls

/-- A curve with the size of its numbers in bytes. -/
structure Curve where
  size : Nat
  prime : Nat
  /-- The base point. -/
  base : Nat × Nat
  /-- How many multiples the base point has. -/
  order : Nat
  /-- The identifier of the curve. -/
  identifier : Der.Bytes

namespace Curve

/-- A point (x / z², y / z³); where z is zero, the point at infinity. -/
structure Point where
  x : Nat
  y : Nat
  z : Nat

/-- The point at infinity. -/
def infinity : Point := ⟨1, 1, 0⟩

variable (curve : Curve)

/-- The difference of two numbers of the field. -/
def sub (a b : Nat) : Nat := (a + curve.prime - b % curve.prime) % curve.prime

/-- The product of two numbers of the field. -/
def mul (a b : Nat) : Nat := a * b % curve.prime

/-- Twice a point. -/
def double (a : Point) : Point :=
  let delta := curve.mul a.z a.z
  let gamma := curve.mul a.y a.y
  let beta := curve.mul a.x gamma
  let alpha := curve.mul (3 * curve.sub a.x delta) (a.x + delta)
  let x := curve.sub (alpha * alpha) (8 * beta)
  let z := curve.sub ((a.y + a.z) * (a.y + a.z)) (gamma + delta)
  ⟨x, curve.sub (alpha * curve.sub (4 * beta) x) (8 * gamma * gamma), z⟩

/-- The sum of two points. -/
def add (a b : Point) : Point :=
  if a.z = 0 then b
  else if b.z = 0 then a
  else
    let aa := curve.mul a.z a.z
    let bb := curve.mul b.z b.z
    let u := curve.mul a.x bb
    let s := curve.mul (a.y * b.z) bb
    let h := curve.sub (b.x * aa) u
    let r := curve.sub (curve.mul (b.y * a.z) aa) s
    if h = 0 then (if r = 0 then curve.double a else infinity)
    else
      let hh := curve.mul h h
      let hhh := curve.mul h hh
      let v := curve.mul u hh
      let x := curve.sub (r * r) (hhh + 2 * v)
      ⟨x, curve.sub (r * curve.sub v x) (s * hhh), curve.mul (a.z * b.z) h⟩

/-- A multiple of the base point; the fuel is how many bits the factor has. -/
def multiple : Nat → Nat → Point
  | 0, _ => infinity
  | bits + 1, factor =>
    let twice := curve.double (multiple bits (factor / 2))
    if factor % 2 = 1 then curve.add twice ⟨curve.base.1, curve.base.2, 1⟩ else twice

/-- Whether a public key, as two numbers, is the multiple of the base point by a private key. -/
def isKeyPair (secret : Nat) (x y : Nat) : Bool :=
  let point := curve.multiple (8 * curve.size) secret
  let zz := curve.mul point.z point.z
  point.z != 0 && x < curve.prime && y < curve.prime &&
    point.x == curve.mul x zz && point.y == curve.mul y (curve.mul zz point.z)

/-- The curve of 256 bits. -/
def p256 : Curve where
  size := 32
  prime := 0xffffffff00000001000000000000000000000000ffffffffffffffffffffffff
  base := (0x6b17d1f2e12c4247f8bce6e563a440f277037d812deb33a0f4a13945d898c296,
    0x4fe342e2fe1a7f9b8ee7eb4a7c0f9e162bce33576b315ececbb6406837bf51f5)
  order := 0xffffffff00000000ffffffffffffffffbce6faada7179e84f3b9cac2fc632551
  identifier := [0x06, 0x08, 0x2a, 0x86, 0x48, 0xce, 0x3d, 0x03, 0x01, 0x07]

/-- The curve of 384 bits. -/
def p384 : Curve where
  size := 48
  prime := Nat.pow 2 384 - Nat.pow 2 128 - Nat.pow 2 96 + Nat.pow 2 32 - 1
  base := (0xaa87ca22be8b05378eb1c71ef320ad746e1d3b628ba79b98 * Nat.pow 2 192 +
      0x59f741e082542a385502f25dbf55296c3a545e3872760ab7,
    0x3617de4a96262c6f5d9e98bf9292dc29f8f41dbd289a147c * Nat.pow 2 192 +
      0xe9da3113b5f0b8c00a60b1ce1d7e819d7a431d7c90ea0e5f)
  order := Nat.pow 2 384 - Nat.pow 2 192 + 0xc7634d81f4372ddf581a0db248b0a77aecec196accc52973
  identifier := [0x06, 0x05, 0x2b, 0x81, 0x04, 0x00, 0x22]

end Curve

end ControlPlane.Tls
