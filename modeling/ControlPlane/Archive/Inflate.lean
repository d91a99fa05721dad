/-! Reading deflated data: blocks of bytes and repetitions, written in canonical prefix codes. -/

namespace ControlPlane.Inflate

/-- Why no more bytes come out of deflated data. -/
inductive Ending where
  /-- The last block is complete. -/
  | finished
  /-- The data end inside a block. -/
  | truncated
  | corrupt
  /-- There are as many bytes as were asked for. -/
  | filled
deriving DecidableEq, Repr

/-- Data that are read bit by bit, and the bit that is next. -/
structure Bits where
  data : ByteArray
  position : Nat

/-- What a reading step gives: a value and the unread bits, or the reason why it cannot go on. -/
abbrev Reader := StateT Bits (Except Ending)

/-- Stops the reading. -/
def stop {α : Type} (ending : Ending) : Reader α := fun _ => .error ending

/-- The next bit; bytes are read from their least significant bit. -/
def bit : Reader Nat := fun bits =>
  match bits.data[bits.position / 8]? with
  | none => .error .truncated
  | some b =>
    .ok (b.toNat / Nat.pow 2 (bits.position % 8) % 2, { bits with position := bits.position + 1 })

/-- A number of so many bits, least significant bit first. -/
def number : Nat → Reader Nat
  | 0 => pure 0
  | width + 1 => do
    let low ← bit
    let high ← number width
    return low + 2 * high

/-- Goes on at the next whole byte. -/
def align : Reader Unit := modify fun bits => { bits with position := (bits.position + 7) / 8 * 8 }

/-- The lengths that code words may have. -/
def wordLengths : List Nat := List.range' 1 15

/-- What a word of some length takes of a code space in which the longest words take one each. -/
def share (length : Nat) : Nat := Nat.pow 2 (15 - length)

/-- A canonical prefix code: how many words there are of each length from 1 on, and the symbols
by the order of their words. -/
structure Code where
  counts : List Nat
  symbols : Array Nat

/-- The canonical code in which each symbol has a word of the given length, or none at zero.

The words must fill the code space; a code of one word or none need not. -/
def Code.ofLengths? (lengths : List Nat) : Option Code :=
  let counts := wordLengths.map lengths.count
  let symbols := wordLengths.flatMap fun length =>
    (lengths.zipIdx.filter fun (own, _) => own == length).map Prod.snd
  let taken := (counts.zip wordLengths).foldl (fun taken (count, length) =>
    taken + count * share length) 0
  if taken == share 0 || (taken < share 0 && symbols.length ≤ 1) then
    some ⟨counts, symbols.toArray⟩
  else none

/-- Reads a word bit by bit: `first` is the least word of the length reached, and `index` the
number of shorter words. -/
def wordOf (symbols : Array Nat) : List Nat → (word first index : Nat) → Reader Nat
  | [], _, _, _ => stop .corrupt
  | count :: counts, word, first, index => do
    let word := word + (← bit)
    if word < first + count then return symbols.getD (index + (word - first)) 0
    else wordOf symbols counts (2 * word) (2 * (first + count)) (index + count)

/-- Reads the word of a symbol. -/
def Code.symbol (code : Code) : Reader Nat := wordOf code.symbols code.counts 0 0 0

/-- The least length of a repetition for each length symbol, and its number of further bits. -/
def lengthSteps : Array (Nat × Nat) :=
  #[(3, 0), (4, 0), (5, 0), (6, 0), (7, 0), (8, 0), (9, 0), (10, 0), (11, 1), (13, 1), (15, 1),
    (17, 1), (19, 2), (23, 2), (27, 2), (31, 2), (35, 3), (43, 3), (51, 3), (59, 3), (67, 4),
    (83, 4), (99, 4), (115, 4), (131, 5), (163, 5), (195, 5), (227, 5), (258, 0)]

/-- The least distance for each distance symbol, and its number of further bits. -/
def distanceSteps : Array (Nat × Nat) :=
  #[(1, 0), (2, 0), (3, 0), (4, 0), (5, 1), (7, 1), (9, 2), (13, 2), (17, 3), (25, 3), (33, 4),
    (49, 4), (65, 5), (97, 5), (129, 6), (193, 6), (257, 7), (385, 7), (513, 8), (769, 8),
    (1025, 9), (1537, 9), (2049, 10), (3073, 10), (4097, 11), (6145, 11), (8193, 12), (12289, 12),
    (16385, 13), (24577, 13)]

/-- A number given as a step and further bits. -/
def stepped (steps : Array (Nat × Nat)) (symbol : Nat) : Reader Nat :=
  match steps[symbol]? with
  | none => stop .corrupt
  | some (least, width) => do return least + (← number width)

/-- What a block holds at one place. -/
inductive Item where
  | byte (value : UInt8)
  | repetition (length distance : Nat)
  | blockEnd

/-- Reads the next item of a block. -/
def item (literals distances : Code) : Reader Item := do
  let symbol ← literals.symbol
  if symbol < 256 then return .byte symbol.toUInt8
  else if symbol = 256 then return .blockEnd
  else
    let length ← stepped lengthSteps (symbol - 257)
    return .repetition length (← stepped distanceSteps (← distances.symbol))

/-- Adds so many bytes, each the one at a distance before it. -/
def copyBack (distance : Nat) : Nat → ByteArray → ByteArray
  | 0, out => out
  | n + 1, out => copyBack distance n (out.push (out[out.size - distance]?.getD 0))

/-- Adds the items of a block to what came before, up to a number of bytes. -/
def blockItems (limit : Nat) (literals distances : Code) :
    (fuel : Nat) → Bits → ByteArray → ByteArray × Except Ending Bits
  | 0, _, out => (out, .error .corrupt)
  | fuel + 1, bits, out =>
    if limit ≤ out.size then (out, .error .filled)
    else match item literals distances bits with
      | .error ending => (out, .error ending)
      | .ok (.byte value, bits) => blockItems limit literals distances fuel bits (out.push value)
      | .ok (.blockEnd, bits) => (out, .ok bits)
      | .ok (.repetition length distance, bits) =>
        if out.size < distance then (out, .error .corrupt)
        else blockItems limit literals distances fuel bits (copyBack distance length out)

/-- The lengths of the words of literals in blocks without a code of their own. -/
def fixedLiterals : List Nat :=
  List.replicate 144 8 ++ List.replicate 112 9 ++ List.replicate 24 7 ++ List.replicate 8 8

/-- The lengths of the words of distances in blocks without a code of their own. -/
def fixedDistances : List Nat := List.replicate 32 5

/-- The order in which the lengths of the words for lengths are given. -/
def lengthOrder : List Nat :=
  [16, 17, 18, 0, 8, 7, 9, 6, 10, 5, 11, 4, 12, 3, 13, 2, 14, 1, 15]

/-- The code of some lengths, without which reading cannot go on. -/
def codeOf (lengths : List Nat) : Reader Code :=
  match Code.ofLengths? lengths with
  | some code => pure code
  | none => stop .corrupt

/-- Reads so many lengths, newest first; some symbols stand for a run of one length. -/
def lengths (code : Code) (count : Nat) : (fuel : Nat) → List Nat → Reader (List Nat)
  | 0, newest => if newest.length = count then pure newest else stop .corrupt
  | fuel + 1, newest => do
    if newest.length = count then return newest
    else if count < newest.length then stop .corrupt
    else
      let symbol ← code.symbol
      if symbol < 16 then lengths code count fuel (symbol :: newest)
      else if symbol = 16 then
        match newest with
        | [] => stop .corrupt
        | last :: _ => lengths code count fuel (List.replicate (3 + (← number 2)) last ++ newest)
      else if symbol = 17 then
        lengths code count fuel (List.replicate (3 + (← number 3)) 0 ++ newest)
      else lengths code count fuel (List.replicate (11 + (← number 7)) 0 ++ newest)

/-- Reads the codes at the head of a block that has its own. -/
def ownCodes : Reader (Code × Code) := do
  let literalCount := 257 + (← number 5)
  let distanceCount := 1 + (← number 5)
  let lengthCount := 4 + (← number 4)
  if 286 < literalCount ∨ 30 < distanceCount then stop .corrupt
  else
    let given ← (List.replicate lengthCount 3).mapM number
    let named := lengthOrder.zip given
    let code ← codeOf ((List.range 19).map fun symbol => (named.lookup symbol).getD 0)
    let count := literalCount + distanceCount
    let all := (← lengths code count (count + 1) []).reverse
    return (← codeOf (all.take literalCount), ← codeOf (all.drop literalCount))

/-- Reads the codes of a block of some kind. -/
def codes : (kind : Nat) → Reader (Code × Code)
  | 1 => do return (← codeOf fixedLiterals, ← codeOf fixedDistances)
  | 2 => ownCodes
  | _ => stop .corrupt

/-- The length of a stored block, which is written twice. -/
def storedLength : Reader Nat := do
  align
  let length ← number 16
  let complement ← number 16
  if length + complement = 65535 then return length else stop .corrupt

/-- Adds the bytes of a stored block. -/
def storedBlock (limit : Nat) (bits : Bits) (out : ByteArray) : ByteArray × Except Ending Bits :=
  match storedLength bits with
  | .error ending => (out, .error ending)
  | .ok (length, bits) =>
    let start := bits.position / 8
    let out := out ++ bits.data.extract start (start + length)
    if limit ≤ out.size then (out, .error .filled)
    else if bits.data.size < start + length then (out, .error .truncated)
    else (out, .ok { bits with position := (start + length) * 8 })

/-- Adds the bytes of a block of some kind. -/
def block (limit kind : Nat) (bits : Bits) (out : ByteArray) : ByteArray × Except Ending Bits :=
  if kind = 0 then storedBlock limit bits out
  else match codes kind bits with
    | .error ending => (out, .error ending)
    | .ok ((literals, distances), bits) =>
      -- Each item takes a bit at least.
      blockItems limit literals distances (bits.data.size * 8 + 1) bits out

/-- The head of a block: whether it is the last one, and its kind. -/
def blockHead : Reader (Bool × Nat) := do
  let last ← bit
  return (last = 1, ← number 2)

/-- Adds the bytes of one block after the other. -/
def blocks (limit : Nat) : (fuel : Nat) → Bits → ByteArray → ByteArray × Ending
  | 0, _, out => (out, .corrupt)
  | fuel + 1, bits, out =>
    if limit ≤ out.size then (out, .filled)
    else match blockHead bits with
      | .error ending => (out, ending)
      | .ok ((last, kind), bits) =>
        match block limit kind bits out with
        | (out, .error ending) => (out, ending)
        | (out, .ok bits) => if last then (out, .finished) else blocks limit fuel bits out

/-- The first bytes that deflated data stand for, at most so many, and why there are no more. -/
def inflate (limit : Nat) (data : ByteArray) : ByteArray × Ending :=
  -- Each block takes three bits at least.
  let (out, ending) := blocks limit (data.size * 8 + 1) ⟨data, 0⟩ .empty
  (out.extract 0 limit, ending)

end ControlPlane.Inflate
