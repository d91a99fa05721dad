import ControlPlane.Http.MediaType

/-! Bodies in parts: where a part ends, and what its headers say about it. -/

namespace ControlPlane.Http.Multipart

/-- Bytes of a body. -/
abbrev Bytes := List UInt8

/-- Why a body cannot be read. -/
inductive Fault where
  /-- The body ends early, or something else follows a boundary than a line end. -/
  | incomplete
  | headers
  /-- A part has no end. -/
  | part (name : Option String)
deriving DecidableEq, Repr

/-- A name between quotes. -/
def quotedName (name : String) : String :=
  let escape (c : Char) : List Char :=
    if c = '"' ∨ c = '\\' then ['\\', c] else if c = '\t' then ['\\', 't'] else [c]
  "\"" ++ String.ofList (name.toList.flatMap escape) ++ "\""

/-- The wording of a fault. -/
def Fault.message : Fault → String
  | .incomplete => "incomplete multipart stream"
  | .headers => "failed to read headers"
  | .part name =>
    "field " ++ quotedName (name.getD "<unknown>") ++ " received with incomplete data"

/-- The bytes of a text. -/
def bytesOf (text : String) : Bytes := text.toUTF8.toList

/-- A line end. -/
def lineEnd : Bytes := [13, 10]

/-- What precedes each boundary, and follows the last one. -/
def dashes : Bytes := [45, 45]

/-- A space or a tab. -/
def isSpacing (b : UInt8) : Bool := b == 32 || b == 9

/-- Whether a byte may stand in the name of a header. -/
def isNameByte (b : UInt8) : Bool := b < 128 && MediaType.isToken (Char.ofNat b.toNat)

/-- Whether a byte may stand in the value of a header. -/
def isValueByte (b : UInt8) : Bool := b == 9 || (32 ≤ b && b != 127)

/-- A header: its name in lower case, and its value. -/
structure Header where
  name : String
  value : Bytes

/-- The most headers that a part may have. -/
def maxHeaders : Nat := 32

/-- The bytes after a line end, with or without a carriage return. -/
def afterLine? : Bytes → Option Bytes
  | 13 :: 10 :: rest => some rest
  | 10 :: rest => some rest
  | _ => none

/-- The headers up to an empty line, at most as many as `limit`. -/
def headers? (limit : Nat) (bytes : Bytes) : Option (List Header) :=
  if (afterLine? bytes).isSome then some []
  else match limit with
    | 0 => none
    | limit + 1 => do
      let name := bytes.takeWhile isNameByte
      match name.isEmpty, bytes.dropWhile isNameByte with
      | false, 58 :: rest =>
        let rest := rest.dropWhile isSpacing
        let value := rest.takeWhile isValueByte
        let trimmed := (value.reverse.dropWhile isSpacing).reverse
        let rest ← afterLine? (rest.dropWhile isValueByte)
        let text := MediaType.lower (name.map fun b => Char.ofNat b.toNat)
        return ⟨text, trimmed⟩ :: (← headers? limit rest)
      | _, _ => none

/-- A quoted value up to the quote that no backslash precedes. -/
def quotedValue? : Bytes → Option Bytes
  | [] => none
  | 34 :: _ => some []
  | 92 :: b :: rest => (quotedValue? rest).map fun value => 92 :: b :: value
  | b :: rest => (quotedValue? rest).map (b :: ·)

/-- How the attribute that names a part begins. -/
def nameAttribute : Bytes := bytesOf "name="

/-- The name in the description of a part, with or without quotes.

The attribute stands at the beginning, or after white space or a semicolon. -/
def attribute? (before : Option UInt8) : Bytes → Option Bytes
  | [] => none
  | b :: rest =>
    let mayBegin := before.all fun b => b == 59 || b == 32 || (9 ≤ b && b ≤ 13 && b != 11)
    match (if mayBegin then Text.afterPrefix? nameAttribute (b :: rest) else none) with
    | some (34 :: quoted) => quotedValue? quoted
    | some plain => some (plain.takeWhile (· != 59))
    | none => attribute? (some b) rest

/-- The name of a part with these headers. -/
def name? (headers : List Header) : Option String := do
  let header ← headers.find? fun header => header.name == "content-disposition"
  let name ← attribute? none header.value
  String.fromUTF8? ⟨name.toArray⟩

/-- The contents of the first part with a name, in what follows a boundary; none if the body ends
without one. The fuel is how many bytes there are. -/
def findPart (wanted boundary : String) : Nat → Bytes → Except Fault (Option Bytes)
  | 0, _ => .error .incomplete
  | fuel + 1, bytes =>
    if bytes.take 2 = dashes then .ok none
    else match Text.afterPrefix? lineEnd (bytes.dropWhile isSpacing) with
      | none => .error .incomplete
      | some rest =>
        match Text.cutFirst? (lineEnd ++ lineEnd) rest with
        | none => .error .incomplete
        | some (head, rest) =>
          match headers? maxHeaders (head ++ lineEnd ++ lineEnd) with
          | none => .error .headers
          | some headers =>
            match Text.cutFirst? (lineEnd ++ dashes ++ bytesOf boundary) rest with
            | none => .error (.part (name? headers))
            | some (contents, rest) =>
              if name? headers = some wanted then .ok (some contents)
              else findPart wanted boundary fuel rest

/-- The contents of the first part with a name; what precedes the first boundary is passed over. -/
def find (wanted boundary : String) (body : Bytes) : Except Fault (Option Bytes) :=
  match Text.cutFirst? (dashes ++ bytesOf boundary) body with
  | some (_, rest) => findPart wanted boundary (body.length + 1) rest
  | none => .error .incomplete

end ControlPlane.Http.Multipart
