/-! Host labels beyond ASCII written with ASCII letters, digits and hyphens. -/

namespace ControlPlane.Url.Punycode

/-- The state that encoder and decoder share: code point, digit bias, and whether it is the first. -/
structure Progress where
  code : Nat := 128
  bias : Nat := 72
  first : Bool := true

/-- Halves a difference until it fits, counting the steps. -/
def shrink : Nat → Nat → Nat → Nat
  | 0, _, k => k
  | fuel + 1, delta, k => if 455 < delta then shrink fuel (delta / 35) (k + 36)
    else k + 36 * delta / (delta + 38)

/-- The bias after a difference was written before `count` characters in all. -/
def adapt (delta count : Nat) (first : Bool) : Nat :=
  let delta := if first then delta / 700 else delta / 2
  shrink 64 (delta + delta / count) 0

/-- The threshold of the digit at a position. -/
def threshold (k bias : Nat) : Nat :=
  if k ≤ bias then 1 else if bias + 26 ≤ k then 26 else k - bias

/-- The character of a digit. -/
def digitChar (d : Nat) : Char := if d < 26 then Char.ofNat (97 + d) else Char.ofNat (22 + d)

/-- The digit that a character stands for. -/
def digitOf? (c : Char) : Option Nat :=
  if 'a' ≤ c && c ≤ 'z' then some (c.toNat - 97)
  else if 'A' ≤ c && c ≤ 'Z' then some (c.toNat - 65)
  else if '0' ≤ c && c ≤ '9' then some (c.toNat - 22)
  else none

/-- The digits of a difference, from position `k` on. -/
def writeDelta (bias : Nat) : Nat → Nat → Nat → List Char
  | 0, _, _ => []
  | fuel + 1, q, k =>
    let t := threshold k bias
    if q < t then [digitChar q]
    else digitChar (t + (q - t) % (36 - t)) :: writeDelta bias fuel ((q - t) / (36 - t)) (k + 36)

/-- What the encoder carries while it writes the characters of one code point. -/
structure Writing where
  out : List Char
  delta : Nat
  handled : Nat
  progress : Progress

/-- Passes one character of the label while the code point `code` is written. -/
def writeChar (code : Nat) (w : Writing) (c : Char) : Writing :=
  if c.toNat < code then { w with delta := w.delta + 1 }
  else if c.toNat = code then
    let digits := writeDelta w.progress.bias 64 w.delta 36
    { out := w.out ++ digits, delta := 0, handled := w.handled + 1
      progress := { w.progress with
        bias := adapt w.delta (w.handled + 1) w.progress.first, first := false } }
  else w

/-- Writes all occurrences of a code point. -/
def writeCode (label : List Char) (w : Writing) (code : Nat) : Writing :=
  let start := { w with delta := w.delta + (code - w.progress.code) * (w.handled + 1) }
  let w := label.foldl (writeChar code) start
  { w with delta := w.delta + 1, progress := { w.progress with code := code + 1 } }

/-- The ASCII form of a label, without the mark in front. -/
def encode (label : List Char) : List Char :=
  let basic := label.filter fun c => c.toNat < 128
  let codes := ((label.map Char.toNat).filter (128 ≤ ·)).mergeSort.eraseDups
  let out := if basic.isEmpty then [] else basic ++ ['-']
  (codes.foldl (writeCode label) ⟨out, 0, basic.length, {}⟩).out

/-- Reads the digits of one difference; the answer is the difference and the rest. -/
def readDelta? (bias : Nat) : Nat → Nat → Nat → List Char → Option (Nat × List Char)
  | _, _, _, [] => none
  | sum, weight, k, c :: rest => do
    let d ← digitOf? c
    let sum := sum + d * weight
    let t := threshold k bias
    if Nat.pow 2 32 ≤ sum then none
    else if d < t then some (sum, rest)
    else readDelta? bias sum (weight * (36 - t)) (k + 36) rest

/-- Inserts the characters that the digits describe. -/
def readAll : Nat → Nat → Progress → List Char → List Char → Option (List Char)
  | _, _, _, done, [] => some done
  | 0, _, _, _, _ :: _ => none
  | fuel + 1, position, p, done, cs => do
    let (delta, rest) ← readDelta? p.bias 0 1 36 cs
    let count := done.length + 1
    let place := position + delta
    let code := p.code + place / count
    if 0x10FFFF < code ∨ (0xD800 ≤ code ∧ code < 0xE000) then none
    let at_ := place % count
    let done := done.take at_ ++ Char.ofNat code :: done.drop at_
    readAll fuel (at_ + 1) ⟨code, adapt delta count p.first, false⟩ done rest

/-- The label that an ASCII form denotes. -/
def decode? (cs : List Char) : Option (List Char) :=
  let tail := (cs.reverse.takeWhile (· ≠ '-')).reverse
  let basic := cs.take (cs.length - tail.length - 1)
  if !basic.all (·.toNat < 128) then none else readAll cs.length 0 {} basic tail

end ControlPlane.Url.Punycode
