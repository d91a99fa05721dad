import ControlPlane.Json.Parser

/-! The lexical units of TOML: words, quoted texts in four forms, and marks.

Comments are no tokens. Blanks are, since a header's brackets and the parts of a number must touch. -/

namespace ControlPlane.Toml

/-- What is left of a list after a part of it was read. -/
abbrev Shorter {α : Type} (items : List α) := { rest : List α // rest.length < items.length }

/-- A lexical unit of TOML text. -/
inductive Token where
  | openBracket | closeBracket | openBrace | closeBrace | comma | equals | dot
  | space | tab | newline
  /-- Letters, digits and the signs of keys, numbers and dates. -/
  | word (chars : List Char)
  /-- A quoted text, and whether its form may hold line ends. -/
  | text (multiline : Bool) (value : String)
deriving Repr

namespace Token

/-- Whether a character may stand in comments and texts: all but controls, of which only tab. -/
def isPlain (c : Char) : Bool := c == '\t' || (' ' ≤ c && c != '\x7f')

/-- A tab or a space. -/
def isSpacing (c : Char) : Bool := c == ' ' || c == '\t'

/-- Whether a character may stand in a word. -/
def isWordChar (c : Char) : Bool :=
  c.isAlphanum || c == '_' || c == '-' || c == '+' || c == ':'

/-- Whether a character may stand in an unquoted key. -/
def isKeyChar (c : Char) : Bool := c.isAlphanum || c == '_' || c == '-'

/-- The character whose number is written with hexadecimal digits. -/
def scalar? (digits : List Char) : Option Char := do
  let values ← digits.mapM Json.Token.hexDigit?
  let n := values.foldl (fun n d => n * 16 + d) 0
  if n < 0xD800 ∨ (0xE000 ≤ n ∧ n < 0x110000) then some (Char.ofNat n) else none

/-- The character that a one-letter escape stands for. -/
def letter? : Char → Option Char
  | 'b' => some '\x08'
  | 't' => some '\t'
  | 'n' => some '\n'
  | 'f' => some '\x0c'
  | 'r' => some '\r'
  | '"' => some '"'
  | '\\' => some '\\'
  | _ => none

/-- The character that an escape stands for, read after the backslash. -/
def escape? : (cs : List Char) → Option (Char × Shorter cs)
  | 'u' :: a :: b :: c :: d :: rest =>
    (scalar? [a, b, c, d]).map (·, ⟨rest, Nat.le_add_right (rest.length + 1) 4⟩)
  | 'U' :: a :: b :: c :: d :: e :: f :: g :: h :: rest =>
    (scalar? [a, b, c, d, e, f, g, h]).map (·, ⟨rest, Nat.le_add_right (rest.length + 1) 8⟩)
  | c :: rest => (letter? c).map (·, ⟨rest, Nat.lt_add_one rest.length⟩)
  | [] => none

/-- A character put before the body of a text. -/
def before (c : Char) (body : List Char × List Char) : List Char × List Char :=
  (c :: body.1, body.2)

/-- The body of a text in one line with escapes, and what follows its closing quote. -/
def basicBody (cs : List Char) : Option (List Char × List Char) :=
  match cs with
  | '"' :: rest => some ([], rest)
  | '\\' :: rest =>
    match escape? rest with
    | some (c, ⟨after, _⟩) => (basicBody after).map (before c)
    | none => none
  | c :: rest => if isPlain c then (basicBody rest).map (before c) else none
  | [] => none
termination_by cs.length

/-- The body of a text in one line without escapes, and what follows its closing quote. -/
def literalBody : List Char → Option (List Char × List Char)
  | '\'' :: rest => some ([], rest)
  | c :: rest => if isPlain c then (literalBody rest).map (before c) else none
  | [] => none

/-- Up to two quotes that still belong to the text after three that close it. -/
def lastQuotes (quote : Char) : List Char → List Char × List Char
  | a :: b :: rest =>
    if a = quote ∧ b = quote then ([a, b], rest)
    else if a = quote then ([a], b :: rest) else ([], a :: b :: rest)
  | [a] => if a = quote then ([a], []) else ([], [a])
  | [] => ([], [])

/-- Whether a line ends here. -/
def endsLine : List Char → Bool
  | '\n' :: _ | '\r' :: '\n' :: _ => true
  | _ => false

/-- The body of a text of many lines with escapes; line ends become single newlines.

A backslash at the end of a line skips the blanks and line ends up to the next other character. -/
def basicLines (skipping : Bool) (cs : List Char) : Option (List Char × List Char) :=
  match cs with
  | '"' :: '"' :: '"' :: rest => some (lastQuotes '"' rest)
  | '\r' :: '\n' :: rest =>
    if skipping then basicLines true rest else (basicLines false rest).map (before '\n')
  | '\\' :: rest =>
    if endsLine (rest.dropWhile isSpacing) then basicLines true rest
    else match escape? rest with
      | some (c, ⟨after, _⟩) => (basicLines false after).map (before c)
      | none => none
  | c :: rest =>
    if skipping && (isSpacing c || c == '\n') then basicLines true rest
    else if isPlain c || c == '\n' then (basicLines false rest).map (before c)
    else none
  | [] => none
termination_by cs.length

/-- The body of a text of many lines without escapes; line ends become single newlines. -/
def literalLines : List Char → Option (List Char × List Char)
  | '\'' :: '\'' :: '\'' :: rest => some (lastQuotes '\'' rest)
  | '\r' :: '\n' :: rest => (literalLines rest).map (before '\n')
  | c :: rest => if isPlain c || c == '\n' then (literalLines rest).map (before c) else none
  | [] => none

/-- A text of many lines without the line end that may follow its opening. -/
def afterLineEnd : List Char → List Char
  | '\n' :: rest | '\r' :: '\n' :: rest => rest
  | cs => cs

/-- The text token of a body. -/
def ofBody (multiline : Bool) (body : List Char × List Char) : Option Token × List Char :=
  (some (.text multiline (String.ofList body.1)), body.2)

/-- The token at the head of a text, none for a comment, and the text after it. -/
def read? (cs : List Char) : Option (Option Token × List Char) :=
  match cs with
  | '[' :: rest => some (some .openBracket, rest)
  | ']' :: rest => some (some .closeBracket, rest)
  | '{' :: rest => some (some .openBrace, rest)
  | '}' :: rest => some (some .closeBrace, rest)
  | ',' :: rest => some (some .comma, rest)
  | '=' :: rest => some (some .equals, rest)
  | '.' :: rest => some (some .dot, rest)
  | ' ' :: rest => some (some .space, rest)
  | '\t' :: rest => some (some .tab, rest)
  | '\n' :: rest | '\r' :: '\n' :: rest => some (some .newline, rest)
  | '#' :: rest => some (none, rest.dropWhile isPlain)
  | '"' :: '"' :: '"' :: rest => (basicLines false (afterLineEnd rest)).map (ofBody true)
  | '"' :: rest => (basicBody rest).map (ofBody false)
  | '\'' :: '\'' :: '\'' :: rest => (literalLines (afterLineEnd rest)).map (ofBody true)
  | '\'' :: rest => (literalBody rest).map (ofBody false)
  | _ =>
    let chars := cs.takeWhile isWordChar
    if chars.isEmpty then none else some (some (.word chars), cs.dropWhile isWordChar)

/-- The tokens of a text; the fuel is the length of the text. -/
def scanWith : Nat → List Char → Option (List Token)
  | _, [] => some []
  | 0, _ :: _ => none
  | fuel + 1, cs =>
    (read? cs).bind fun (token, rest) => (scanWith fuel rest).map (token.toList ++ ·)

/-- The tokens of a text. -/
def scan? (cs : List Char) : Option (List Token) := scanWith cs.length cs

end Token

end ControlPlane.Toml
