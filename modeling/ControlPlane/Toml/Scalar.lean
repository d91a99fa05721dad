import ControlPlane.Toml.Basic
import ControlPlane.Toml.Moment
import ControlPlane.Json.Parser

/-! Unquoted values: truth values, numbers, dates and times. -/

namespace ControlPlane.Toml.Scalar

/-- Digits with underscores between them, less the underscores. -/
def grouped? (isDigit : Char → Bool) : List Char → Option (List Char)
  | [] => none
  | [c] => if isDigit c then some [c] else none
  | c :: '_' :: rest =>
    if isDigit c then (grouped? isDigit rest).map (c :: ·) else none
  | c :: rest => if isDigit c then (grouped? isDigit rest).map (c :: ·) else none

/-- The sign in front of a number, and what follows. -/
def signed : List Char → Bool × List Char
  | '-' :: rest => (true, rest)
  | '+' :: rest => (false, rest)
  | cs => (false, cs)

/-- Decimal digits without a zero in front of others. -/
def whole? (cs : List Char) : Option (List Char) := do
  let digits ← grouped? Char.isDigit cs
  if digits.head? = some '0' ∧ 1 < digits.length then none else some digits

/-- A whole number that fits 64 bits with a sign. -/
def fitted? (n : Int) : Option Toml :=
  if -(Int.pow 2 63) ≤ n ∧ n < Int.pow 2 63 then some (.int n) else none

/-- The digits below a base. -/
def isDigitOf (base : Nat) (c : Char) : Bool := (Json.Token.hexDigit? c).any (· < base)

/-- A whole number in a base that a letter after a zero tells. -/
def based? (base : Nat) (cs : List Char) : Option Toml := do
  let digits ← grouped? (isDigitOf base) cs
  fitted? (digits.foldl (fun n c => n * base + (Json.Token.hexDigit? c).getD 0) (0 : Nat))

/-- A whole number in decimal digits. -/
def integer? (cs : List Char) : Option Toml := do
  let (negative, body) := signed cs
  let n : Int := Decimal.natOfDigits (← whole? body)
  fitted? (if negative then -n else n)

/-- The exponent after its mark, or no exponent. -/
def exponent? : List Char → Option Int
  | [] => some 0
  | _ :: rest => do
    let (negative, body) := signed rest
    let n : Int := Decimal.natOfDigits (← grouped? Char.isDigit body)
    return if negative then -n else n

/-- A finite number with a point or an exponent. -/
def real? (cs : List Char) : Option Toml := do
  let (negative, body) := signed cs
  let isMark (c : Char) := c == 'e' || c == 'E'
  let mantissa := body.takeWhile (!isMark ·)
  let power ← exponent? (body.dropWhile (!isMark ·))
  let whole ← whole? (mantissa.takeWhile (· != '.'))
  let fraction ← match mantissa.dropWhile (· != '.') with
    | [] => some []
    | _ :: rest => grouped? Char.isDigit rest
  let digits := Decimal.natOfDigits (whole ++ fraction)
  let value := Double.ofDecimal negative digits (power - fraction.length)
  if body.any (fun c => c == '.' || isMark c) && value.isFinite then some (.real value) else none

/-- Infinity or no number, with an optional sign. -/
def word? (cs : List Char) : Option Toml :=
  let (negative, body) := signed cs
  if body = ['i', 'n', 'f'] then some (.real ⟨Double.signBit negative ||| 0x7FF0000000000000⟩)
  else if body = ['n', 'a', 'n'] then
    some (.real ⟨Double.signBit negative ||| 0x7FF8000000000000⟩)
  else none

/-- The value that an unquoted text denotes. -/
def read? (cs : List Char) : Option Toml :=
  match cs with
  | ['t', 'r', 'u', 'e'] => some (.bool true)
  | ['f', 'a', 'l', 's', 'e'] => some (.bool false)
  | '0' :: 'x' :: rest => based? 16 rest
  | '0' :: 'o' :: rest => based? 8 rest
  | '0' :: 'b' :: rest => based? 2 rest
  | _ =>
    ((Moment.read? cs).map fun written => .moment (String.ofList written)).or
      ((word? cs).or ((integer? cs).or (real? cs)))

end ControlPlane.Toml.Scalar
