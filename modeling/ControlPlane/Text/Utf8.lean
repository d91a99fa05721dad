/-! Reading UTF-8 that may be malformed. -/

namespace ControlPlane.Text

/-- The mark that stands for bytes which are no character. -/
def replacement : Char := '\uFFFD'

/-- A character of which some bytes are still missing: how many, between which bounds the next one
lies, and the value of those read. -/
structure Unfinished where
  missing : Nat
  low : UInt8
  high : UInt8
  value : Nat

/-- A first byte: the character that it is, or the one that it begins; none if it is neither. -/
def firstByte (b : UInt8) : Option (Char ⊕ Unfinished) :=
  let begin (missing : Nat) (low high : UInt8) (bits : Nat) : Option (Char ⊕ Unfinished) :=
    some (.inr ⟨missing, low, high, b.toNat % bits⟩)
  if b < 0x80 then some (.inl (Char.ofNat b.toNat))
  else if b < 0xC2 then none
  else if b < 0xE0 then begin 1 0x80 0xBF 32
  else if b = 0xE0 then begin 2 0xA0 0xBF 16
  else if b = 0xED then begin 2 0x80 0x9F 16
  else if b < 0xF0 then begin 2 0x80 0xBF 16
  else if b = 0xF0 then begin 3 0x90 0xBF 8
  else if b < 0xF4 then begin 3 0x80 0xBF 8
  else if b = 0xF4 then begin 3 0x80 0x8F 8
  else none

/-- What a byte gives where a character begins: characters, and one that it leaves unfinished. -/
def begun (b : UInt8) : List Char × Option Unfinished :=
  match firstByte b with
  | some (.inl c) => ([c], none)
  | some (.inr unfinished) => ([], some unfinished)
  | none => ([replacement], none)

/-- What a byte gives after an unfinished character; one that does not fit begins anew. -/
def continued (unfinished : Unfinished) (b : UInt8) : List Char × Option Unfinished :=
  if unfinished.low ≤ b ∧ b ≤ unfinished.high then
    let value := unfinished.value * 64 + b.toNat % 64
    if unfinished.missing ≤ 1 then ([Char.ofNat value], none)
    else ([], some ⟨unfinished.missing - 1, 0x80, 0xBF, value⟩)
  else
    let (chars, next) := begun b
    (replacement :: chars, next)

/-- The characters of some bytes after what may be an unfinished one. -/
def readUtf8 : Option Unfinished → List UInt8 → List Char
  | none, [] => []
  | some _, [] => [replacement]
  | unfinished, b :: rest =>
    let (chars, next) := match unfinished with
      | none => begun b
      | some u => continued u b
    chars ++ readUtf8 next rest

/-- The text of some bytes, with a replacement for each longest piece that is no character. -/
def ofUtf8Lossy (bytes : List UInt8) : String := String.ofList (readUtf8 none bytes)

end ControlPlane.Text
