import ControlPlane.Json.Parser
import ControlPlane.Yaml.Char

/-! The content of YAML scalars: plain, quoted and block text. -/

namespace ControlPlane.Yaml

/-- What a scalar has collected: its text, and the blanks and breaks since the last character. -/
structure Pending where
  text : List Char := []
  blanks : List Char := []
  firstBreak : List Char := []
  laterBreaks : List Char := []
  onNewLine : Bool := false
  afterBlanks : Bool := false
deriving Repr

namespace Pending

/-- Takes a blank into account: on a new line it is indentation and counts for nothing. -/
def blank (p : Pending) (c : Char) : Pending :=
  if p.onNewLine then { p with afterBlanks := true }
  else { p with blanks := c :: p.blanks, afterBlanks := true }

/-- Takes a line break into account. -/
def lineBreak (p : Pending) (content : List Char) : Pending :=
  if p.onNewLine then { p with laterBreaks := p.laterBreaks ++ content, afterBlanks := true }
  else { p with blanks := [], firstBreak := content, onNewLine := true, afterBlanks := true }

/-- Adds what separates the text so far from the next character; the text is kept in reverse. -/
def settle (p : Pending) : Pending :=
  if p.onNewLine then
    { text := (foldBreaks p.firstBreak p.laterBreaks).reverse ++ p.text }
  else { text := p.blanks ++ p.text }

/-- Adds a character of content. -/
def push (p : Pending) (c : Char) : Pending := { p with text := c :: p.text }

/-- The text that was collected, whether it ended on a new line, and the cursor there. -/
def close (p : Pending) (c : Cursor) : Option (List Char × Bool × Cursor) :=
  some (p.text.reverse, p.onNewLine, c)

end Pending

/-- Whether a plain scalar ends before the next characters. -/
def endsPlain (inFlow : Bool) : List Char → Bool
  | ':' :: rest => startsBlank rest
  | c :: _ => inFlow && (c == ',' || c == '[' || c == ']' || c == '\x7b' || c == '\x7d')
  | [] => true

/-- Whether a colon in a flow stands directly before an indicator, which is refused. -/
def isStrayColon : List Char → Bool
  | ':' :: c :: _ =>
    c == ',' || c == '?' || c == '[' || c == ']' || c == '\x7b' || c == '\x7d'
  | _ => false

/-- The text of a plain scalar, whether it ended on a new line, and the cursor after it.

The fuel is at least the number of characters that are left. -/
def scanPlain (fuel : Nat) (inFlow : Bool) (indent : Nat) (p : Pending) (c : Cursor) :
    Option (List Char × Bool × Cursor) :=
  match fuel, c.rest with
  | 0, _ | _, [] => p.close c
  | fuel + 1, x :: rest =>
    if isBlank x then
      if p.onNewLine && c.mark.column < indent && x == '\t' then none
      else scanPlain fuel inFlow indent (p.blank x) c.skip
    else if isBreak x then
      let (content, next) := c.takeBreak
      scanPlain fuel inFlow indent (p.lineBreak content) next
    else if p.afterBlanks && !inFlow && c.mark.column < indent then p.close c
    else if p.afterBlanks && (c.atDocumentMarker || x == '#') then p.close c
    else if inFlow && isStrayColon (x :: rest) then none
    else if endsPlain inFlow (x :: rest) then p.close c
    else scanPlain fuel inFlow indent (p.settle.push x) c.skip

/-- The character of a one-letter escape in double quotes. -/
def escape? : Char → Option Char
  | '0' => some '\x00' | 'a' => some '\x07' | 'b' => some '\x08' | 't' => some '\t'
  | '\t' => some '\t' | 'n' => some '\n' | 'v' => some '\x0b' | 'f' => some '\x0c'
  | 'r' => some '\r' | 'e' => some '\x1b' | ' ' => some ' ' | '"' => some '"'
  | '/' => some '/' | '\\' => some '\\' | 'N' => some '\u0085' | '_' => some '\u00a0'
  | 'L' => some '\u2028' | 'P' => some '\u2029'
  | _ => none

/-- The number of hexadecimal digits that a letter after a backslash announces. -/
def escapeWidth? : Char → Option Nat
  | 'x' => some 2 | 'u' => some 4 | 'U' => some 8
  | _ => none

/-- The number that hexadecimal digits denote. -/
def hexValue? (cs : List Char) : Option Nat :=
  cs.foldlM (fun n c => (Json.Token.hexDigit? c).map (n * 16 + ·)) 0

/-- The character that an escape by number denotes; surrogates are refused. -/
def numberedChar? (digits : List Char) (width : Nat) : Option Char := do
  if digits.length ≠ width then none
  let n ← hexValue? digits
  if (0xD800 ≤ n ∧ n ≤ 0xDFFF) ∨ 0x10FFFF < n then none
  return Char.ofNat n

/-- The text of a quoted scalar and the cursor after its closing quote.

The fuel is more than the number of characters that are left. -/
def scanQuoted (fuel : Nat) (single : Bool) (p : Pending) (c : Cursor) :
    Option (List Char × Cursor) :=
  match fuel, c.rest with
  | 0, _ | _, [] => none
  | fuel + 1, x :: rest =>
    if isBlank x then scanQuoted fuel single (p.blank x) c.skip
    else if isBreak x then
      let (content, next) := c.takeBreak
      scanQuoted fuel single (p.lineBreak content) next
    else if p.afterBlanks && c.atDocumentMarker then none
    else
      let p := p.settle
      if single then
        match x, rest with
        | '\'', '\'' :: _ => scanQuoted fuel single (p.push '\'') (c.skipMany 2)
        | '\'', _ => some (p.text.reverse, c.skip)
        | _, _ => scanQuoted fuel single (p.push x) c.skip
      else
        match x, rest with
        | '"', _ => some (p.text.reverse, c.skip)
        | '\\', e :: after =>
          if isBreak e then
            -- An escaped break joins the lines with nothing between them.
            scanQuoted fuel single { p with onNewLine := true, afterBlanks := true }
              c.skip.skipBreak
          else match escapeWidth? e with
            | some width =>
              match numberedChar? (after.take width) width with
              | some decoded => scanQuoted fuel single (p.push decoded) (c.skipMany (2 + width))
              | none => none
            | none =>
              match escape? e with
              | some decoded => scanQuoted fuel single (p.push decoded) (c.skipMany 2)
              | none => none
        | '\\', [] => none
        | _, _ => scanQuoted fuel single (p.push x) c.skip

/-- How the breaks at the end of a block scalar are kept. -/
inductive Chomp where
  | strip | clip | keep
deriving DecidableEq, Repr

/-- The chomping and indentation indicators of a block scalar, in either order. -/
def blockHeader? (c : Cursor) : Option (Chomp × Nat × Cursor) :=
  let chomp? : Char → Option Chomp
    | '+' => some .keep
    | '-' => some .strip
    | _ => none
  let digit? (c : Cursor) : Option (Nat × Cursor) :=
    match c.rest with
    | d :: _ =>
      if d.isDigit then (if d = '0' then none else some (d.toNat - 48, c.skip)) else some (0, c)
    | [] => some (0, c)
  match c.rest with
  | x :: _ =>
    match chomp? x with
    | some chomp => (digit? c.skip).map fun (n, c) => (chomp, n, c)
    | none => (digit? c).map fun (n, c) =>
      match c.rest with
      | y :: _ =>
        match (if 0 < n then chomp? y else none) with
        | some chomp => (chomp, n, c.skip)
        | none => (.clip, n, c)
      | [] => (.clip, n, c)
  | [] => some (.clip, 0, c)

/-- The breaks before a line of block content, the deepest indentation seen, and the cursor.

A tab where indentation is expected is refused. The fuel is at least the number of characters that
are left. -/
def blockBreaks (fuel : Nat) (indent deepest : Nat) (breaks : List Char) (c : Cursor) :
    Option (List Char × Nat × Cursor) :=
  match fuel, c.rest with
  | 0, _ => some (breaks, deepest, c)
  | fuel + 1, x :: _ =>
    let open_ := indent = 0 ∨ c.mark.column < indent
    if x = ' ' ∧ open_ then blockBreaks fuel indent (max deepest (c.mark.column + 1)) breaks c.skip
    else if x = '\t' ∧ open_ then none
    else if isBreak x then
      let (content, next) := c.takeBreak
      blockBreaks fuel indent (max deepest c.mark.column) (breaks ++ content) next
    else some (breaks, max deepest c.mark.column, c)
  | _, [] => some (breaks, max deepest c.mark.column, c)

/-- The lines of a block scalar: the text in reverse, the last break, the breaks after it, and the
cursor. The fuel is at least the number of characters that are left. -/
def blockLines (fuel : Nat) (literal : Bool) (indent : Nat) (text lead breaks : List Char)
    (leadBlank : Bool) (c : Cursor) : Option (List Char × List Char × List Char × Cursor) :=
  match fuel, c.rest with
  | 0, _ | _, [] => some (text, lead, breaks, c)
  | fuel + 1, x :: _ =>
    if c.mark.column ≠ indent then some (text, lead, breaks, c)
    else
      let blank := isBlank x
      -- Folding joins two lines only if neither of them starts with a blank.
      let joint :=
        if !literal && lead.head? == some '\n' && !leadBlank && !blank then
          if breaks.isEmpty then [' '] else breaks
        else lead ++ breaks
      let line := c.rest.takeWhile fun x => !isBreak x
      let (lead, next) := (c.skipMany line.length).takeBreak
      match blockBreaks fuel indent 0 [] next with
      | none => none
      | some (breaks, _, next) =>
        let text := line.reverse ++ (joint.reverse ++ text)
        blockLines fuel literal indent text lead breaks blank next

/-- The text of a block scalar whose indicator was just read, and the cursor after it.

The fuel is more than the number of characters that are left. -/
def scanBlock (fuel : Nat) (literal : Bool) (outer : Int) (c : Cursor) :
    Option (List Char × Cursor) := do
  let (chomp, increment, c) ← blockHeader? c
  let c ← c.toLineEnd?
  let c := c.skipBreak
  let fixed : Nat :=
    if increment = 0 then 0 else if 0 ≤ outer then outer.toNat + increment else increment
  let (breaks, deepest, c) ← blockBreaks fuel fixed 0 [] c
  let indent := if fixed = 0 then max (max deepest (outer + 1).toNat) 1 else fixed
  let (text, lead, breaks, c) ← blockLines fuel literal indent [] [] breaks false c
  let lead := if chomp = .strip then [] else lead
  let breaks := if chomp = .keep then breaks else []
  return (text.reverse ++ lead ++ breaks, c)

end ControlPlane.Yaml
