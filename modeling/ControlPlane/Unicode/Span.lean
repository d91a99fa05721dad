import ControlPlane.Json.Parser
import ControlPlane.Text.Blank

/-! Tables of character properties: spans of code points with the numbers attached to them. -/

namespace ControlPlane.Unicode

/-- A run of code points and the numbers that a table attaches to them. -/
structure Span where
  first : Nat
  last : Nat
  values : List Nat
deriving Repr

/-- A table with its spans in ascending order. -/
abbrev Table := Array Span

/-- The number that hexadecimal digits denote, other characters being passed over. -/
def hexNumber (cs : List Char) : Nat :=
  cs.foldl (fun n c => match Json.Token.hexDigit? c with
    | some d => n * 16 + d
    | none => n) 0

/-- Reads a span written as `first-last:value,value`, the last and the values being optional. -/
def Span.ofChars (cs : List Char) : Span :=
  let (range, values) := match Text.cutAt (· == ':') cs with
    | [range, values] => (range, (Text.cutAt (· == ',') values).map hexNumber)
    | _ => (cs, [])
  match Text.cutAt (· == '-') range with
  | [first, last] => ⟨hexNumber first, hexNumber last, values⟩
  | _ => ⟨hexNumber range, hexNumber range, values⟩

/-- Takes one character of a table's text into account, a blank closing the current span. -/
def Table.step (state : Table × List Char) (c : Char) : Table × List Char :=
  let (done, word) := state
  if c ≠ ' ' ∧ c ≠ '\n' then (done, c :: word)
  else if word.isEmpty then (done, [])
  else (done.push (Span.ofChars word.reverse), [])

/-- Reads a table whose spans stand between spaces and line breaks. -/
def Table.ofText (text : String) : Table :=
  (Table.step (text.toList.foldl Table.step (#[], [])) ' ').1

/-- Looks for the span of a code point between two positions by halving. -/
def Table.search (table : Table) (code : Nat) : Nat → Nat → Nat → Option Span
  | 0, _, _ => none
  | fuel + 1, low, high =>
    if high ≤ low then none else
      let middle := (low + high) / 2
      match table[middle]? with
      | none => none
      | some span =>
        if code < span.first then table.search code fuel low middle
        else if span.last < code then table.search code fuel (middle + 1) high
        else some span

/-- The span that a character lies in. -/
def Table.find? (table : Table) (c : Char) : Option Span :=
  table.search c.toNat 32 0 table.size

/-- Whether a character lies in a span of the table. -/
def Table.has (table : Table) (c : Char) : Bool := (table.find? c).isSome

/-- The number attached to a character, or zero. -/
def Table.valueOf (table : Table) (c : Char) : Nat :=
  match table.find? c with
  | some ⟨_, _, v :: _⟩ => v
  | _ => 0

/-- The characters that a character is replaced by, if the table lists it.

A single code point lists its replacement; a run lists a step and the replacement of its first
member, and covers every member that is a whole number of steps away from the first. -/
def Table.replacement? (table : Table) (c : Char) : Option (List Char) :=
  match table.find? c with
  | none => none
  | some span =>
    if span.first = span.last then some (span.values.map Char.ofNat)
    else match span.values with
      | [step, target] =>
        let distance := c.toNat - span.first
        if distance % step = 0 then some [Char.ofNat (target + distance)] else none
      | _ => none

end ControlPlane.Unicode
