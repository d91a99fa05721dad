import ControlPlane.Decimal.Shortest

/-! The positional text of a double, which has no exponent at any magnitude. -/

namespace ControlPlane.Decimal

/-- Digits with the point where a power of ten of the last digit puts it. -/
def positional (digits : List Char) (exponent : Int) : List Char :=
  let point : Int := digits.length + exponent
  if 0 ≤ exponent then digits ++ List.replicate exponent.toNat '0'
  else if 0 < point then digits.take point.toNat ++ '.' :: digits.drop point.toNat
  else '0' :: '.' :: List.replicate (-point).toNat '0' ++ digits

/-- The shortest positional text that reads back as a double; a whole number has no point. -/
def plainText (value : Double) : String :=
  let sign := if value.isNegative then "-" else ""
  if value.isFinite then
    let shortest := shortest value
    sign ++ String.ofList (positional (Nat.toDigits 10 shortest.digits) shortest.exponent)
  else if value.fraction = 0 then sign ++ "inf"
  else "NaN"

end ControlPlane.Decimal
