import ControlPlane.Decimal.Double

/-! Reading decimal texts: a sign, digits with at most one point, and an exponent. -/

namespace ControlPlane.Decimal

/-- The number that decimal digits denote. -/
def natOfDigits (digits : List Char) : Nat :=
  digits.foldl (fun n c => n * 10 + (c.toNat - 48)) 0

/-- A whole number with an optional sign, as a text that holds nothing else. -/
def readInt? (cs : List Char) : Option Int :=
  let (negative, digits) := match cs with
    | '-' :: rest => (true, rest)
    | '+' :: rest => (false, rest)
    | _ => (false, cs)
  if digits.isEmpty || !digits.all Char.isDigit then none
  else some (if negative then -(natOfDigits digits : Int) else natOfDigits digits)

/-- The digits of a decimal and the power of ten of the last, without its sign. -/
def readUnsigned? (cs : List Char) : Option (Nat × Int) :=
  let whole := cs.takeWhile Char.isDigit
  let (fraction, rest) := match cs.dropWhile Char.isDigit with
    | '.' :: rest => (rest.takeWhile Char.isDigit, rest.dropWhile Char.isDigit)
    | rest => ([], rest)
  if whole.isEmpty && fraction.isEmpty then none else
    let digits := natOfDigits (whole ++ fraction)
    let shift : Int := -(fraction.length : Int)
    match rest with
    | [] => some (digits, shift)
    | 'e' :: power | 'E' :: power => (readInt? power).map fun p => (digits, shift + p)
    | _ => none

/-- The double that a text denotes; infinities and NaN are written as words in any case. -/
def readDouble? (cs : List Char) : Option Double :=
  let (negative, body) := match cs with
    | '-' :: rest => (true, rest)
    | '+' :: rest => (false, rest)
    | _ => (false, cs)
  let word := String.ofList (body.map Char.toLower)
  if word = "inf" ∨ word = "infinity" then
    some ⟨Double.signBit negative ||| 0x7FF0000000000000⟩
  else if word = "nan" then some ⟨Double.signBit negative ||| 0x7FF8000000000000⟩
  else (readUnsigned? body).map fun (digits, exponent) =>
    Double.ofDecimal negative digits exponent

end ControlPlane.Decimal
