/-! Character classes and positions of YAML text. -/

namespace ControlPlane.Yaml

/-- How deep collections may be nested; deeper documents are refused as a whole. -/
def maxDepth : Nat := 128

/-- A line break character. -/
def isBreak (c : Char) : Bool :=
  c == '\n' || c == '\r' || c.val == 0x85 || c.val == 0x2028 || c.val == 0x2029

/-- A space or a tab. -/
def isBlank (c : Char) : Bool := c == ' ' || c == '\t'

/-- Whether a text goes on with a blank or a break, or ends. -/
def startsBlank : List Char → Bool
  | [] => true
  | c :: _ => isBlank c || isBreak c

/-- A character of anchors, directive names and tag handles. -/
def isWord (c : Char) : Bool := c.isAlphanum || c == '-' || c == '_'

/-- A character that may stand in a stream at all. -/
def isAllowed (c : Char) : Bool :=
  let n := c.val
  n == 0x09 || n == 0x0A || n == 0x0D || (0x20 ≤ n && n ≤ 0x7E) || n == 0x85 ||
    (0xA0 ≤ n && n ≤ 0xD7FF) || (0xE000 ≤ n && n ≤ 0xFFFD) || 0x10000 ≤ n

/-- A place in the text. -/
structure Mark where
  index : Nat
  line : Nat
  column : Nat
deriving DecidableEq, Repr

/-- The text that is still to be read, and where it starts. -/
structure Cursor where
  mark : Mark
  rest : List Char
deriving Repr

namespace Cursor

/-- The cursor after one character of the current line. -/
def skip (c : Cursor) : Cursor :=
  match c.rest with
  | [] => c
  | _ :: rest => ⟨⟨c.mark.index + 1, c.mark.line, c.mark.column + 1⟩, rest⟩

/-- The cursor after several characters of the current line. -/
def skipMany (c : Cursor) (count : Nat) : Cursor :=
  ⟨⟨c.mark.index + count, c.mark.line, c.mark.column + count⟩, c.rest.drop count⟩

/-- The cursor after the characters of the current line that satisfy a test. -/
def skipWhile (test : Char → Bool) (c : Cursor) : Cursor :=
  c.skipMany (c.rest.takeWhile test).length

/-- The break at the cursor as it counts for content, and the cursor on the next line.

Every break but the two Unicode separators counts as a line feed. -/
def takeBreak (c : Cursor) : List Char × Cursor :=
  let next (width : Nat) (rest : List Char) : Cursor :=
    ⟨⟨c.mark.index + width, c.mark.line + 1, 0⟩, rest⟩
  match c.rest with
  | '\r' :: '\n' :: rest => (['\n'], next 2 rest)
  | b :: rest =>
    if b.val = 0x2028 ∨ b.val = 0x2029 then ([b], next 1 rest)
    else if isBreak b then (['\n'], next 1 rest)
    else ([], c)
  | [] => ([], c)

/-- The cursor after the line break that it stands at, if it stands at one. -/
def skipBreak (c : Cursor) : Cursor := c.takeBreak.2

/-- Whether the cursor stands at a break. -/
def atBreak (c : Cursor) : Bool :=
  match c.rest with
  | b :: _ => isBreak b
  | [] => false

/-- The cursor after blanks and a comment; none if the line does not end there. -/
def toLineEnd? (c : Cursor) : Option Cursor :=
  let c := c.skipWhile isBlank
  let c := match c.rest with
    | '#' :: _ => c.skipWhile fun x => !isBreak x
    | _ => c
  if c.rest.isEmpty || c.atBreak then some c else none

/-- Whether the cursor stands at a document marker at the start of a line. -/
def atDocumentMarker (c : Cursor) : Bool :=
  c.mark.column == 0 &&
    match c.rest with
    | '-' :: '-' :: '-' :: rest | '.' :: '.' :: '.' :: rest => startsBlank rest
    | _ => false

end Cursor

/-- Breaks between two lines of content become one space, or the breaks after the first. -/
def foldBreaks (first later : List Char) : List Char :=
  if first = ['\n'] then (if later.isEmpty then [' '] else later) else first ++ later

end ControlPlane.Yaml
