import ControlPlane.Unicode.Composition

/-! Canonical composition: equivalent texts get one written form. -/

namespace ControlPlane.Unicode

/-- The two parts of a composed character; syllables of Hangul are composed by rule. -/
def parts? (c : Char) : Option (Char × Char) :=
  let n := c.toNat
  if 0xAC00 ≤ n ∧ n < 0xAC00 + 11172 then
    let s := n - 0xAC00
    if s % 28 = 0 then some (Char.ofNat (0x1100 + s / 588), Char.ofNat (0x1161 + s % 588 / 28))
    else some (Char.ofNat (0xAC00 + s / 28 * 28), Char.ofNat (0x11A7 + s % 28))
  else match composites.find? c with
    | some ⟨_, _, [a, b]⟩ => some (Char.ofNat a, Char.ofNat b)
    | _ => none

/-- The composed characters by their parts. -/
def composeTable : List (Nat × Nat × Nat) :=
  composites.toList.filterMap fun
    | ⟨c, _, [a, b]⟩ => some (a, b, c)
    | _ => none

/-- The character that two characters are composed to. -/
def compose? (a b : Char) : Option Char :=
  let x := a.toNat
  let y := b.toNat
  if 0x1100 ≤ x ∧ x < 0x1113 ∧ 0x1161 ≤ y ∧ y < 0x1176 then
    some (Char.ofNat (0xAC00 + ((x - 0x1100) * 21 + (y - 0x1161)) * 28))
  else if 0xAC00 ≤ x ∧ x < 0xAC00 + 11172 ∧ (x - 0xAC00) % 28 = 0 ∧ 0x11A7 < y ∧ y < 0x11C3 then
    some (Char.ofNat (x + (y - 0x11A7)))
  else (composeTable.find? fun (p, q, _) => p == x && q == y).map fun (_, _, c) => Char.ofNat c

/-- The combining class of a character. -/
def combiningClass (c : Char) : Nat := combiningClasses.valueOf c

/-- A character taken apart as far as it goes; characters nest at most four deep. -/
def decompose : Nat → Char → List Char
  | 0, c => [c]
  | fuel + 1, c =>
    match parts? c with
    | some (a, b) => decompose fuel a ++ decompose fuel b
    | none => [c]

/-- Puts a mark among the marks at the head of a reversed text, behind those of its class. -/
def insertMark (c : Char) : List Char → List Char
  | [] => [c]
  | d :: rest =>
    if combiningClass c < combiningClass d then d :: insertMark c rest else c :: d :: rest

/-- A text with every run of marks in the order of their classes. -/
def orderMarks (cs : List Char) : List Char :=
  (cs.foldl (fun done c => if combiningClass c = 0 then c :: done else insertMark c done) []).reverse

/-- What composition carries: closed text in reverse, the starter, and the marks after it. -/
structure Composing where
  done : List Char := []
  starter : Option Char := none
  marks : List Char := []

/-- Closes the starter with its marks. -/
def Composing.close (s : Composing) : List Char :=
  s.marks ++ s.starter.toList ++ s.done

/-- Takes the next character in: it joins the starter unless a mark between them blocks it. -/
def Composing.push (s : Composing) (c : Char) : Composing :=
  let blocked := match s.marks with
    | [] => false
    | m :: _ => combiningClass c ≤ combiningClass m
  match (if blocked then none else s.starter.bind (compose? · c)) with
  | some joined => { s with starter := some joined }
  | none =>
    if combiningClass c = 0 then { done := s.close, starter := some c }
    else { s with marks := c :: s.marks }

/-- The canonical composed form of a text. -/
def normalize (cs : List Char) : List Char :=
  ((orderMarks (cs.flatMap (decompose 6))).foldl Composing.push {}).close.reverse

end ControlPlane.Unicode
