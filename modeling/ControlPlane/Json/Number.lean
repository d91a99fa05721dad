import ControlPlane.Json.Basic
import ControlPlane.Decimal.Shortest

/-! The written form of JSON numbers: how a literal is read, and how a value is printed. -/

namespace ControlPlane.Json.Literal

/-- The value of a decimal digit. -/
def digit? (c : Char) : Option Nat :=
  if '0' ≤ c && c ≤ '9' then some (c.toNat - '0'.toNat) else none

/-- The largest significand that is kept exactly; further digits only move the point. -/
def maxSignificand : Nat := Nat.pow 2 64 - 1

/-- A significand scaled by a power of ten, in double arithmetic.

One step of a power up to 308 rounds once; a larger negative power is divided off in steps. -/
def scaleDown (fuel : Nat) (value : Double) (power : Nat) : Double :=
  match fuel with
  | 0 => value
  | fuel + 1 =>
    if power ≤ 308 then value.div (.ofDecimal false 1 power)
    else if value.significand = 0 then value
    else scaleDown fuel (value.div (.ofDecimal false 1 308)) (power - 308)

/-- The double that a literal denotes; none if it is too large. -/
def toDouble? (negative : Bool) (significand : Nat) (exponent : Int) : Option Double :=
  let value := Double.ofInt significand
  let magnitude? :=
    if exponent < 0 then
      -- Six divisions by 10^308 leave nothing of any significand.
      some (scaleDown 8 value (min (-exponent).toNat 2464))
    else if significand = 0 then some value
    else if 308 < exponent then none
    else
      let scaled := value.mul (.ofDecimal false 1 exponent)
      if scaled.isFinite then some scaled else none
  magnitude?.map fun d => if negative then d.neg else d

/-- Reads an exponent and closes the literal. -/
def exponentPart (negative : Bool) (significand : Nat) (shift : Int) (cs : List Char) :
    Option (Double × List Char) :=
  let (down, cs) := match cs with
    | '+' :: rest => (false, rest)
    | '-' :: rest => (true, rest)
    | _ => (false, cs)
  let digits := cs.takeWhile Char.isDigit
  let rest := cs.dropWhile Char.isDigit
  if digits.isEmpty then none else
    let power : Nat := digits.foldl (fun n c => n * 10 + (c.toNat - 48)) 0
    let exponent? : Option Int :=
      if power ≤ 2147483647 then some (if down then shift - power else shift + power)
      else if significand = 0 ∨ down then some (-4000)
      else none
    exponent?.bind fun exponent => (toDouble? negative significand exponent).map (·, rest)

/-- Reads the digits after the point as long as the significand can take them.

The answer is the significand, the number of digits taken, and the text from there. -/
def takeDigits (significand taken : Nat) : List Char → Nat × Nat × List Char
  | [] => (significand, taken, [])
  | c :: rest =>
    match digit? c with
    | none => (significand, taken, c :: rest)
    | some d =>
      let next := significand * 10 + d
      if next ≤ maxSignificand then takeDigits next (taken + 1) rest
      else (significand, taken, c :: rest)

/-- The rest of a literal after its point and fraction. -/
def closing (negative : Bool) (significand : Nat) (shift : Int) (cs : List Char) :
    Option (Double × List Char) :=
  match cs with
  | 'e' :: rest | 'E' :: rest => exponentPart negative significand shift rest
  | _ => (toDouble? negative significand shift).map (·, cs)

/-- The rest of a literal after its point. -/
def fractionPart (negative : Bool) (significand : Nat) (shift : Int) (cs : List Char) :
    Option (Double × List Char) :=
  if (cs.takeWhile Char.isDigit).isEmpty then none else
    let (significand, taken, _) := takeDigits significand 0 cs
    closing negative significand (shift - taken) (cs.dropWhile Char.isDigit)

/-- The rest of a literal after the digits before the point, of which `dropped` were not kept. -/
def afterWhole (negative : Bool) (significand dropped : Nat) (cs : List Char) :
    Option (Number × List Char) :=
  match cs with
  | '.' :: rest => (fractionPart negative significand dropped rest).map fun (d, r) => (.real d, r)
  | 'e' :: rest | 'E' :: rest =>
    (exponentPart negative significand dropped rest).map fun (d, r) => (.real d, r)
  | _ =>
    if dropped = 0 ∧ ¬negative then some (.int significand, cs)
    else if dropped = 0 ∧ 0 < significand ∧ significand ≤ Nat.pow 2 63 then
      some (.int (-significand), cs)
    -- A negative zero and a whole number beyond 64 bits are doubles.
    else (toDouble? negative significand dropped).map fun d => (.real d, cs)

/-- Reads the digits and what follows them. -/
def unsigned (negative : Bool) (cs : List Char) : Option (Number × List Char) :=
  match cs with
  | '0' :: rest =>
    if (rest.takeWhile Char.isDigit).isEmpty then afterWhole negative 0 0 rest else none
  | _ =>
    if (cs.takeWhile Char.isDigit).isEmpty then none else
      let (significand, _, unread) := takeDigits 0 0 cs
      afterWhole negative significand (unread.takeWhile Char.isDigit).length
        (cs.dropWhile Char.isDigit)

/-- Reads a number literal at the head of a text. -/
def read? : List Char → Option (Number × List Char)
  | '-' :: rest => unsigned true rest
  | cs => unsigned false cs

/-- The digits of a whole number. -/
def natText (n : Nat) : String := String.ofList (Nat.toDigits 10 n)

/-- A whole number with its sign. -/
def intText (i : Int) : String := if i < 0 then "-" ++ natText i.natAbs else natText i.natAbs

/-- The shortest text that reads back as a finite double.

Numbers from 1e-5 up to but not including 1e16 are positional, with `.0` after a whole number. -/
def doubleText (d : Double) : String :=
  let sign := if d.isNegative then "-" else ""
  let shortest := Decimal.shortest d
  let digits := Nat.toDigits 10 shortest.digits
  let count := digits.length
  let point : Int := count + shortest.exponent
  let zeros (n : Nat) : List Char := List.replicate n '0'
  let body :=
    if shortest.digits = 0 then ['0', '.', '0']
    else if 0 ≤ shortest.exponent ∧ point ≤ 16 then
      digits ++ zeros shortest.exponent.toNat ++ ['.', '0']
    else if 0 < point ∧ point ≤ 16 then
      digits.take point.toNat ++ '.' :: digits.drop point.toNat
    else if -5 < point ∧ point ≤ 0 then '0' :: '.' :: zeros (-point).toNat ++ digits
    else
      let head := digits.take 1
      let tail := digits.drop 1
      let mantissa := if tail.isEmpty then head else head ++ '.' :: tail
      mantissa ++ 'e' :: (intText (point - 1)).toList
  sign ++ String.ofList body

/-- The text of a number. -/
def numberText : Number → String
  | .int i => intText i
  | .real d => doubleText d

end ControlPlane.Json.Literal
