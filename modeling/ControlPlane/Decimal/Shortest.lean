import ControlPlane.Decimal.Double

/-! The fewest decimal digits that read back as a given double. -/

namespace ControlPlane.Decimal

/-- Digits and the power of ten of the last of them. -/
structure Digits where
  digits : Nat
  exponent : Int
deriving DecidableEq, Repr

/-- The digits without trailing zeros. -/
def Digits.strip (fuel : Nat) (d : Digits) : Digits :=
  match fuel with
  | 0 => d
  | fuel + 1 =>
    if d.digits ≠ 0 ∧ d.digits % 10 = 0 then strip fuel ⟨d.digits / 10, d.exponent + 1⟩ else d

/-- A quotient divided by a power of ten, as a quotient. -/
def unscaled (num den : Nat) (power : Int) : Nat × Nat :=
  if 0 ≤ power then (num, den * Nat.pow 10 power.toNat) else (num * Nat.pow 10 (-power).toNat, den)

/-- The power of ten of the leading digit of a positive quotient. -/
def leadingPower (num den : Nat) : Int :=
  let guess : Int := ((Nat.log2 num : Int) - Nat.log2 den) * 30103 / 100000
  -- The estimate is at most two too large or too small.
  let fits (p : Int) : Bool := let (n, d) := unscaled num den p; d ≤ n && n < 10 * d
  ((List.range 7).map fun (i : Nat) => guess - 3 + (i : Int)).find? fits |>.getD guess

/-- The shortest digits that denote a finite double other than zero among all decimals.

Of two that are equally short the nearer is taken, and of two equally near the even one. -/
def shortest (value : Double) : Digits :=
  let (num, den) := value.ratio
  if num = 0 then ⟨0, 0⟩ else
    let m := value.significand
    -- The interval that rounds to the value, in quarters of the last place.
    let below := if m = Nat.pow 2 52 ∧ 1 < value.biased then 1 else 2
    let low := Double.scaled (4 * m - below) 4 value.scale
    let high := Double.scaled (4 * m + 2) 4 value.scale
    let closed := m % 2 = 0
    let lead := leadingPower num den
    let inside (digits : Nat) (power : Int) : Bool :=
      let (ln, ld) := unscaled low.1 low.2 power
      let (hn, hd) := unscaled high.1 high.2 power
      if closed then ln ≤ digits * ld && digits * hd ≤ hn
      else ln < digits * ld && digits * hd < hn
    let candidate (count : Nat) : Option Digits :=
      let power := lead - count + 1
      let (n, d) := unscaled num den power
      let floor := n / d
      let near := Double.roundQuotient n d
      let far := if near = floor then floor + 1 else floor
      if inside near power then some ⟨near, power⟩
      else if inside far power then some ⟨far, power⟩
      else none
    ((List.range 17).findSome? fun i => candidate (i + 1)).getD ⟨num, 0⟩ |>.strip 20

end ControlPlane.Decimal
