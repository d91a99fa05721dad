import ControlPlane.Decimal.Reader

/-! Dates and times: which texts denote one, and their canonical form. -/

namespace ControlPlane.Toml.Moment

/-- Digits that denote a number between two bounds. -/
def between? (low high : Nat) (digits : List Char) : Option Nat :=
  let n := Decimal.natOfDigits digits
  if digits.all Char.isDigit && low ≤ n && n ≤ high then some n else none

/-- How many days a month has. -/
def daysIn (year month : Nat) : Nat :=
  if month = 2 then
    if year % 4 = 0 ∧ (year % 100 ≠ 0 ∨ year % 400 = 0) then 29 else 28
  else if month = 4 ∨ month = 6 ∨ month = 9 ∨ month = 11 then 30
  else 31

/-- A date at the head of a text: its characters, and the text after it. -/
def date? : List Char → Option (List Char × List Char)
  | a :: b :: c :: d :: '-' :: m :: n :: '-' :: s :: t :: rest => do
    let year ← between? 0 9999 [a, b, c, d]
    let month ← between? 1 12 [m, n]
    let _ ← between? 1 (daysIn year month) [s, t]
    return ([a, b, c, d, '-', m, n, '-', s, t], rest)
  | _ => none

/-- A fraction without the zeros at its end, with its point unless nothing is left. -/
def fraction (digits : List Char) : List Char :=
  -- More than nine places are cut off.
  let kept := ((digits.take 9).reverse.dropWhile (· == '0')).reverse
  if kept.isEmpty then [] else '.' :: kept

/-- A time of day at the head of a text: its canonical characters, and the text after it. -/
def time? : List Char → Option (List Char × List Char)
  | a :: b :: ':' :: m :: n :: ':' :: s :: t :: rest => do
    let _ ← between? 0 23 [a, b]
    let _ ← between? 0 59 [m, n]
    let _ ← between? 0 60 [s, t]
    let clock := [a, b, ':', m, n, ':', s, t]
    match rest with
    | '.' :: rest =>
      let digits := rest.takeWhile Char.isDigit
      if digits.isEmpty then none
      else some (clock ++ fraction digits, rest.dropWhile Char.isDigit)
    | rest => some (clock, rest)
  | _ => none

/-- A distance from universal time, which may be left out, as the whole of a text. -/
def offset? : List Char → Option (List Char)
  | [] => some []
  | ['Z'] | ['z'] => some ['Z']
  | [sign, a, b, ':', m, n] => do
    let hours ← between? 0 23 [a, b]
    let minutes ← between? 0 59 [m, n]
    if sign ≠ '+' ∧ sign ≠ '-' then none
    else
      -- No distance at all is written with a plus.
      let sign := if hours = 0 ∧ minutes = 0 then '+' else sign
      return [sign, a, b, ':', m, n]
  | _ => none

/-- Whether a text is a date alone. -/
def isDate (cs : List Char) : Bool :=
  match date? cs with
  | some (_, []) => true
  | _ => false

/-- The canonical form of a date, a time, or both with a distance from universal time. -/
def read? (cs : List Char) : Option (List Char) :=
  match date? cs with
  | some (day, []) => some day
  | some (day, mark :: rest) =>
    if mark = 'T' ∨ mark = 't' ∨ mark = ' ' then do
      let (clock, rest) ← time? rest
      return day ++ 'T' :: clock ++ (← offset? rest)
    else none
  | none =>
    match time? cs with
    | some (clock, []) => some clock
    | _ => none

end ControlPlane.Toml.Moment
