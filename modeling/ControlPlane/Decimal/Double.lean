/-! Binary floating-point numbers of 64 bits as exact values, and correct rounding to them. -/

namespace ControlPlane

/-- A binary64 number, given by its bit pattern. -/
structure Double where
  bits : UInt64
deriving DecidableEq, Repr

namespace Double

/-- The sign bit. -/
def isNegative (d : Double) : Bool := d.bits >>> 63 == 1

/-- The eleven bits of the biased exponent. -/
def biased (d : Double) : Nat := ((d.bits >>> 52) &&& 0x7FF).toNat

/-- The fifty-two stored bits of the fraction. -/
def fraction (d : Double) : Nat := (d.bits &&& 0xFFFFFFFFFFFFF).toNat

/-- Neither an infinity nor a NaN. -/
def isFinite (d : Double) : Bool := d.biased != 0x7FF

/-- The whole number that, scaled by `scale`, gives the magnitude. -/
def significand (d : Double) : Nat :=
  if d.biased = 0 then d.fraction else d.fraction + Nat.pow 2 52

/-- The power of two by which the significand is scaled. -/
def scale (d : Double) : Int :=
  if d.biased = 0 then -1074 else (d.biased : Int) - 1075

/-- The magnitude of a finite number as a fraction. -/
def ratio (d : Double) : Nat × Nat :=
  if 0 ≤ d.scale then (d.significand * Nat.pow 2 d.scale.toNat, 1)
  else (d.significand, Nat.pow 2 (-d.scale).toNat)

/-- A quotient rounded to the nearest whole number, a half going to the even neighbour. -/
def roundQuotient (num den : Nat) : Nat :=
  let whole := num / den
  let twice := 2 * (num % den)
  if twice < den then whole
  else if twice = den then whole + whole % 2
  else whole + 1

/-- The sign bit in place. -/
def signBit (negative : Bool) : UInt64 := if negative then 0x8000000000000000 else 0

/-- A quotient multiplied by a power of two, as a quotient. -/
def scaled (num den : Nat) (power : Int) : Nat × Nat :=
  if 0 ≤ power then (num * Nat.pow 2 power.toNat, den) else (num, den * Nat.pow 2 (-power).toNat)

/-- The double nearest to a quotient; a magnitude beyond the largest finite one is infinite. -/
def ofRatio (negative : Bool) (num den : Nat) : Double :=
  if num = 0 ∨ den = 0 then ⟨signBit negative⟩ else
    -- The quotient lies between 2^(level-1) and 2^(level+1).
    let level : Int := (Nat.log2 num : Int) - Nat.log2 den
    let low := level - 53
    let (n, d) := scaled num den (-low)
    let power := max (if n / d < Nat.pow 2 53 then low else low + 1) (-1074)
    let (n, d) := scaled num den (-power)
    let m := roundQuotient n d
    -- A significand that rounds up to 2^53 carries into the exponent by itself.
    let magnitude := if m < Nat.pow 2 52 then m
      else (power + 1075).toNat * Nat.pow 2 52 + (m - Nat.pow 2 52)
    let capped := min magnitude (0x7FF * Nat.pow 2 52)
    ⟨signBit negative ||| capped.toUInt64⟩

/-- The double nearest to a whole number of units of a power of ten. -/
def ofDecimal (negative : Bool) (digits : Nat) (exponent : Int) : Double :=
  if digits = 0 then ⟨signBit negative⟩ else
    -- Beyond these magnitudes the answer is infinite or zero, whatever the digits are.
    let magnitude := exponent + (Nat.log2 digits : Int) * 30103 / 100000
    if magnitude > 400 then ⟨signBit negative ||| 0x7FF0000000000000⟩
    else if magnitude < -400 then ⟨signBit negative⟩
    else if 0 ≤ exponent then ofRatio negative (digits * Nat.pow 10 exponent.toNat) 1
    else ofRatio negative digits (Nat.pow 10 (-exponent).toNat)

/-- The double nearest to a whole number. -/
def ofInt (i : Int) : Double := ofRatio (decide (i < 0)) i.natAbs 1

/-- The product of two finite numbers, rounded once. -/
def mul (a b : Double) : Double :=
  let (n₁, d₁) := a.ratio
  let (n₂, d₂) := b.ratio
  ofRatio (a.isNegative != b.isNegative) (n₁ * n₂) (d₁ * d₂)

/-- The quotient of a finite number by a finite number other than zero, rounded once. -/
def div (a b : Double) : Double :=
  let (n₁, d₁) := a.ratio
  let (n₂, d₂) := b.ratio
  ofRatio (a.isNegative != b.isNegative) (n₁ * d₂) (d₁ * n₂)

/-- The number with the opposite sign. -/
def neg (d : Double) : Double := ⟨d.bits ^^^ 0x8000000000000000⟩

/-- The whole number nearest to a finite number, a half going away from zero. -/
def roundAway (d : Double) : Int :=
  let (n, den) := d.ratio
  let magnitude : Nat := (2 * n + den) / (2 * den)
  if d.isNegative then -(magnitude : Int) else magnitude

end Double

end ControlPlane
