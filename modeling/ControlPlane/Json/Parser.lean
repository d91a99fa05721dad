import ControlPlane.Json.Number

/-! Reading JSON text: characters to tokens, and tokens to a value of limited depth. -/

namespace ControlPlane.Json

/-- A lexical unit of JSON text. -/
inductive Token where
  | openArray | closeArray | openObject | closeObject | comma | colon
  | null | bool (value : Bool) | num (value : Number) | str (value : String)
deriving Repr

namespace Token

/-- The value of a hexadecimal digit. -/
def hexDigit? (c : Char) : Option Nat :=
  if '0' ≤ c && c ≤ '9' then some (c.toNat - 48)
  else if 'a' ≤ c && c ≤ 'f' then some (c.toNat - 87)
  else if 'A' ≤ c && c ≤ 'F' then some (c.toNat - 55)
  else none

/-- The number that four hexadecimal digits denote. -/
def hex4? (a b c d : Char) : Option Nat := do
  let a ← hexDigit? a
  let b ← hexDigit? b
  let c ← hexDigit? c
  let d ← hexDigit? d
  return ((a * 16 + b) * 16 + c) * 16 + d

/-- The character that a one-letter escape stands for. -/
def escape? : Char → Option Char
  | '"' => some '"'
  | '\\' => some '\\'
  | '/' => some '/'
  | 'b' => some '\x08'
  | 'f' => some '\x0c'
  | 'n' => some '\n'
  | 'r' => some '\r'
  | 't' => some '\t'
  | _ => none

/-- The characters of a string up to its closing quote, and the text after it.

A surrogate must stand in a pair, and control characters must be escaped. -/
def stringBody : List Char → Option (List Char × List Char)
  | '"' :: rest => some ([], rest)
  | '\\' :: 'u' :: a :: b :: c :: d :: rest =>
    match hex4? a b c d, rest with
    | none, _ => none
    | some unit, rest =>
      if unit < 0xD800 ∨ 0xE000 ≤ unit then
        (stringBody rest).map fun (cs, r) => (Char.ofNat unit :: cs, r)
      else match rest with
        | '\\' :: 'u' :: e :: f :: g :: h :: rest =>
          match hex4? e f g h with
          | some low =>
            if unit < 0xDC00 ∧ 0xDC00 ≤ low ∧ low < 0xE000 then
              (stringBody rest).map fun (cs, r) =>
                (Char.ofNat (0x10000 + (unit - 0xD800) * 0x400 + (low - 0xDC00)) :: cs, r)
            else none
          | none => none
        | _ => none
  | '\\' :: e :: rest =>
    match escape? e with
    | some c => (stringBody rest).map fun (cs, r) => (c :: cs, r)
    | none => none
  | c :: rest =>
    if c.val < 0x20 ∨ c = '\\' then none
    else (stringBody rest).map fun (cs, r) => (c :: cs, r)
  | [] => none

/-- Whether a character is white space between tokens. -/
def isSpace (c : Char) : Bool := c == ' ' || c == '\n' || c == '\t' || c == '\r'

/-- The token at the head of a text that starts with no space, and the text after it. -/
def read? (cs : List Char) : Option (Token × List Char) :=
  match cs with
  | '[' :: rest => some (.openArray, rest)
  | ']' :: rest => some (.closeArray, rest)
  | '{' :: rest => some (.openObject, rest)
  | '}' :: rest => some (.closeObject, rest)
  | ',' :: rest => some (.comma, rest)
  | ':' :: rest => some (.colon, rest)
  | 'n' :: 'u' :: 'l' :: 'l' :: rest => some (.null, rest)
  | 't' :: 'r' :: 'u' :: 'e' :: rest => some (.bool true, rest)
  | 'f' :: 'a' :: 'l' :: 's' :: 'e' :: rest => some (.bool false, rest)
  | '"' :: rest => (stringBody rest).map fun (body, r) => (.str (String.ofList body), r)
  | _ => (Literal.read? cs).map fun (n, r) => (.num n, r)

/-- The tokens of a text; the fuel is the length of the text. -/
def scanWith : Nat → List Char → Option (List Token)
  | _, [] => some []
  | 0, _ :: _ => none
  | fuel + 1, c :: rest =>
    if isSpace c then scanWith fuel rest
    else (read? (c :: rest)).bind fun (token, r) => (scanWith fuel r).map (token :: ·)

/-- The tokens of a text. -/
def scan? (cs : List Char) : Option (List Token) := scanWith cs.length cs

end Token

/-- What is left of the tokens after a part of them was read. -/
abbrev Shorter (ts : List Token) := { rest : List Token // rest.length < ts.length }

mutual

/-- The value at the head of the tokens, nested at most `depth` deep. -/
def readValue? (depth : Nat) (ts : List Token) : Option (Json × Shorter ts) :=
  match ts with
  | .null :: rest => some (.null, ⟨rest, by simp⟩)
  | .bool b :: rest => some (.bool b, ⟨rest, by simp⟩)
  | .num n :: rest => some (.num n, ⟨rest, by simp⟩)
  | .str s :: rest => some (.str s, ⟨rest, by simp⟩)
  | .openArray :: .closeArray :: rest =>
    if depth = 0 then none else some (.arr [], ⟨rest, by simp only [List.length_cons]; omega⟩)
  | .openArray :: rest =>
    if depth = 0 then none else
      match readItems? (depth - 1) rest with
      | some (items, ⟨after, shorter⟩) => some (.arr items, ⟨after, by simp; omega⟩)
      | none => none
  | .openObject :: .closeObject :: rest =>
    if depth = 0 then none else some (.obj [], ⟨rest, by simp only [List.length_cons]; omega⟩)
  | .openObject :: rest =>
    if depth = 0 then none else
      match readPairs? (depth - 1) rest with
      | some (pairs, ⟨after, shorter⟩) => some (.obj (ofPairs pairs), ⟨after, by simp; omega⟩)
      | none => none
  | _ => none
termination_by (ts.length, 0)

/-- One or more values with commas between them, up to the closing bracket. -/
def readItems? (depth : Nat) (ts : List Token) : Option (List Json × Shorter ts) :=
  match readValue? depth ts with
  | some (item, ⟨.closeArray :: rest, shorter⟩) =>
    some ([item], ⟨rest, by simp at shorter; omega⟩)
  | some (item, ⟨.comma :: rest, shorter⟩) =>
    have : rest.length < ts.length := by simp at shorter; omega
    match readItems? depth rest with
    | some (items, ⟨after, _⟩) => some (item :: items, ⟨after, by omega⟩)
    | none => none
  | _ => none
termination_by (ts.length, 1)

/-- One or more keys with their values and commas between them, up to the closing brace. -/
def readPairs? (depth : Nat) (ts : List Token) : Option (List (String × Json) × Shorter ts) :=
  match ts with
  | .str key :: .colon :: valueTokens =>
    match readValue? depth valueTokens with
    | some (value, ⟨.closeObject :: rest, shorter⟩) =>
      some ([(key, value)], ⟨rest, by simp at shorter ⊢; omega⟩)
    | some (value, ⟨.comma :: rest, shorter⟩) =>
      have : rest.length < valueTokens.length := by simp at shorter; omega
      match readPairs? depth rest with
      | some (pairs, ⟨after, _⟩) => some ((key, value) :: pairs, ⟨after, by simp; omega⟩)
      | none => none
    | _ => none
  | _ => none
termination_by (ts.length, 1)

end

/-- How deep arrays and objects may be nested in text that is read. -/
def maxDepth : Nat := 127

/-- The value that a JSON text denotes, nested at most `depth` deep. -/
def parseWithin? (depth : Nat) (text : String) : Option Json := do
  let tokens ← Token.scan? text.toList
  match readValue? depth tokens with
  | some (value, ⟨[], _⟩) => some value
  | _ => none

/-- The value that a JSON text denotes. -/
def parse? (text : String) : Option Json := parseWithin? maxDepth text

end ControlPlane.Json
