import ControlPlane.Yaml.Scalar
import ControlPlane.Yaml.Token

/-! Cutting YAML text into tokens, with indentation made explicit.

A key without an indicator is only recognised at its colon, so a token may be put in front of
tokens that were read before it. -/

namespace ControlPlane.Yaml

/-- A place where a key may have started that had no `?` in front of it. -/
structure SimpleKey where
  required : Bool
  position : Nat
  mark : Mark
deriving Repr

/-- The state of the lexer between two tokens. -/
structure Lexer where
  cursor : Cursor
  /-- The tokens so far, the last one first. -/
  tokens : List Token := []
  /-- How many tokens there are. -/
  count : Nat := 0
  indent : Int := -1
  outer : List Int := []
  /-- The candidate of each flow level, the innermost first, the block level last. -/
  keys : List (Option SimpleKey) := [none]
  keyAllowed : Bool := true
deriving Repr

namespace Lexer

/-- The number of flow collections around the cursor. -/
def flowLevel (l : Lexer) : Nat := l.keys.length - 1

/-- Whether the cursor is inside a flow collection. -/
def inFlow (l : Lexer) : Bool := 0 < l.flowLevel

/-- Appends a token. -/
def emit (l : Lexer) (t : Token) : Lexer :=
  { l with tokens := t :: l.tokens, count := l.count + 1 }

/-- Puts a token in front of the token at a position. -/
def insertAt (l : Lexer) (position : Nat) (t : Token) : Lexer :=
  let later := l.count - position
  { l with tokens := l.tokens.take later ++ t :: l.tokens.drop later, count := l.count + 1 }

/-- Drops candidates that are on an earlier line or too far back; a required one is an error. -/
def dropStale (l : Lexer) : Option Lexer := do
  let keys ← l.keys.mapM fun
    | none => some none
    | some k =>
      if k.mark.line < l.cursor.mark.line || k.mark.index + 1024 < l.cursor.mark.index then
        if k.required then none else some none
      else some (some k)
  return { l with keys }

/-- Drops the candidate of the current level; a required one is an error. -/
def dropKey (l : Lexer) : Option Lexer :=
  match l.keys with
  | some k :: rest => if k.required then none else some { l with keys := none :: rest }
  | _ => some l

/-- Notes that a key may start here. -/
def saveKey (l : Lexer) : Option Lexer :=
  let required := !l.inFlow && l.indent == (l.cursor.mark.column : Int)
  if l.keyAllowed then do
    let cleared ← l.dropKey
    let candidate : SimpleKey := ⟨required, l.count, l.cursor.mark⟩
    return { cleared with keys := some candidate :: cleared.keys.drop 1 }
  else some l

/-- Opens a block collection at a column, at the end or in front of an earlier token. -/
def rollIndent (l : Lexer) (column : Int) (position : Option Nat) (t : Token) : Lexer :=
  if l.inFlow || column ≤ l.indent then l
  else
    let l := { l with outer := l.indent :: l.outer, indent := column }
    match position with
    | some p => l.insertAt p t
    | none => l.emit t

/-- Closes the block collections that are indented more than a column. -/
def unrollIndent (l : Lexer) (column : Int) : Lexer :=
  if l.inFlow then l else go l.outer l
where
  go : List Int → Lexer → Lexer
    | [], l => l
    | previous :: rest, l =>
      if column < l.indent then
        go rest { l.emit .blockEnd with indent := previous, outer := rest }
      else l

/-- Moves over one character. -/
def skip (l : Lexer) : Lexer := { l with cursor := l.cursor.skip }

/-- Moves over blanks, comments and line breaks to the next token.

The fuel is at least the number of characters that are left. -/
def toNextToken (fuel : Nat) (l : Lexer) : Lexer :=
  match fuel, l.cursor.rest with
  | 0, _ | _, [] => l
  | fuel + 1, x :: _ =>
    if x.val = 0xFEFF ∧ l.cursor.mark.column = 0 then toNextToken fuel l.skip
    else if x = ' ' ∨ (x = '\t' ∧ (l.inFlow ∨ !l.keyAllowed)) then toNextToken fuel l.skip
    else if x = '#' then
      toNextToken fuel { l with cursor := l.cursor.skipWhile fun c => !isBreak c }
    else if isBreak x then
      toNextToken fuel
        { l with cursor := l.cursor.skipBreak, keyAllowed := l.keyAllowed || !l.inFlow }
    else l

/-- A byte of a tag written as `%` and two hexadecimal digits. -/
def uriByte? : List Char → Option (UInt8 × List Char)
  | '%' :: a :: b :: rest => do
    let a ← Json.Token.hexDigit? a
    let b ← Json.Token.hexDigit? b
    return ((a * 16 + b).toUInt8, rest)
  | _ => none

/-- A character of a tag written as the escaped bytes of its UTF-8 form. -/
def uriEscape? (cs : List Char) : Option (Char × Nat) := do
  let (first, rest) ← uriByte? cs
  let width ←
    if first < 0x80 then some 1
    else if first &&& 0xE0 == 0xC0 then some 2
    else if first &&& 0xF0 == 0xE0 then some 3
    else if first &&& 0xF8 == 0xF0 then some 4
    else none
  let rec more : Nat → List UInt8 → List Char → Option (List UInt8)
    | 0, bytes, _ => some bytes
    | n + 1, bytes, cs => do
      let (byte, rest) ← uriByte? cs
      if byte &&& 0xC0 == 0x80 then more n (bytes ++ [byte]) rest else none
  let bytes ← more (width - 1) [first] rest
  let text ← String.fromUTF8? ⟨bytes.toArray⟩
  match text.toList with
  | [c] => some (c, 3 * width)
  | _ => none

/-- Whether a character may stand in a tag, verbatim tags allowing a few more. -/
def isTagChar (verbatim : Bool) (c : Char) : Bool :=
  isWord c || ";/?:@&=+$.%!~*'()".toList.contains c || (verbatim && ",[]".toList.contains c)

/-- The characters of a tag and the cursor after them.

The fuel is at least the number of characters that are left. -/
def scanUri (fuel : Nat) (verbatim : Bool) (text : List Char) (c : Cursor) :
    Option (List Char × Cursor) :=
  match fuel, c.rest with
  | 0, _ | _, [] => some (text, c)
  | fuel + 1, x :: _ =>
    if x = '%' then
      match uriEscape? c.rest with
      | some (decoded, width) => scanUri fuel verbatim (text ++ [decoded]) (c.skipMany width)
      | none => none
    else if isTagChar verbatim x then scanUri fuel verbatim (text ++ [x]) c.skip
    else some (text, c)

/-- A tag handle: `!`, word characters, and a closing `!` if there is one. -/
def scanHandle (c : Cursor) : Option (List Char × Cursor) :=
  match c.rest with
  | '!' :: rest =>
    let word := rest.takeWhile isWord
    let next := c.skipMany (1 + word.length)
    match next.rest with
    | '!' :: _ => some ('!' :: word ++ ['!'], next.skip)
    | _ => some ('!' :: word, next)
  | _ => none

/-- A tag in front of a node. -/
def scanTag (fuel : Nat) (inFlow : Bool) (c : Cursor) : Option (Token × Cursor) := do
  let (handle, suffix, c) ← match c.rest with
    | '!' :: '<' :: _ => do
      let (uri, c) ← scanUri fuel true [] (c.skipMany 2)
      match uri, c.rest with
      | _ :: _, '>' :: _ => some ("", uri, c.skip)
      | _, _ => none
    | _ => do
      let (handle, after) ← scanHandle c
      if 1 < handle.length && handle.getLast? == some '!' then
        let (uri, c) ← scanUri fuel false [] after
        if uri.isEmpty then none else some (String.ofList handle, uri, c)
      else
        -- What looked like a handle is the beginning of a local tag.
        let (uri, c) ← scanUri fuel false (handle.drop 1) after
        if uri.isEmpty then some ("", ['!'], c) else some ("!", uri, c)
  let ends := startsBlank c.rest || (inFlow && c.rest.head? == some ',')
  if ends then some (.tag handle (String.ofList suffix), c) else none

/-- The name of an anchor or alias whose indicator was just read. -/
def scanName (c : Cursor) : Option (String × Cursor) :=
  let word := c.rest.takeWhile isWord
  let next := c.skipMany word.length
  let ends := startsBlank next.rest ||
    match next.rest with
    | x :: _ => "?:,]\x7d%@".toList.contains x || x.val == 0x60
    | [] => true
  if word.isEmpty || !ends then none else some (String.ofList word, next)

/-- A number of at most nine digits in a version directive. -/
def scanVersionNumber (c : Cursor) : Option (Nat × Cursor) :=
  let digits := c.rest.takeWhile Char.isDigit
  if digits.isEmpty || 9 < digits.length then none
  else some (digits.foldl (fun n d => n * 10 + (d.toNat - 48)) 0, c.skipMany digits.length)

/-- A directive, with the rest of its line. -/
def scanDirective (c : Cursor) : Option (Token × Cursor) := do
  let name := (c.rest.drop 1).takeWhile isWord
  let c := c.skipMany (1 + name.length)
  if name.isEmpty || !startsBlank c.rest then none
  let c := c.skipWhile isBlank
  let (token, c) ←
    if name = "YAML".toList then do
      let (major, c) ← scanVersionNumber c
      if c.rest.head? ≠ some '.' then none
      let (minor, c) ← scanVersionNumber c.skip
      some (Token.versionDirective major minor, c)
    else if name = "TAG".toList then do
      let (handle, c) ← scanHandle c
      if handle ≠ ['!'] && handle.getLast? ≠ some '!' then none
      if (c.rest.head?.map isBlank) ≠ some true then none
      let c := c.skipWhile isBlank
      let (uri, c) ← scanUri c.rest.length true [] c
      if uri.isEmpty || !startsBlank c.rest then none
      some (Token.tagDirective (String.ofList handle) (String.ofList uri), c)
    else none
  let c ← c.toLineEnd?
  return (token, c.skipBreak)

/-- The lexer after a token that closes all blocks and takes `width` characters. -/
def fetchMarker (l : Lexer) (t : Token) : Option Lexer := do
  let l ← (l.unrollIndent (-1)).dropKey
  return { l.emit t with keyAllowed := false, cursor := l.cursor.skipMany 3 }

/-- The lexer after an opening bracket; one too many is refused at once. -/
def fetchFlowStart (l : Lexer) (t : Token) : Option Lexer := do
  if maxDepth ≤ l.flowLevel then none
  let l ← l.saveKey
  return { l.emit t with keys := none :: l.keys, keyAllowed := true, cursor := l.cursor.skip }

/-- The lexer after a closing bracket. -/
def fetchFlowEnd (l : Lexer) (t : Token) : Option Lexer := do
  let l ← l.dropKey
  let keys := if l.inFlow then l.keys.drop 1 else l.keys
  return { l.emit t with keys, keyAllowed := false, cursor := l.cursor.skip }

/-- The lexer after the dash of a block entry. -/
def fetchBlockEntry (l : Lexer) : Option Lexer := do
  if !l.inFlow && !l.keyAllowed then none
  let l ← (l.rollIndent l.cursor.mark.column none .blockSequenceStart).dropKey
  return { l.emit .blockEntry with keyAllowed := true, cursor := l.cursor.skip }

/-- The lexer after a key indicator. -/
def fetchKey (l : Lexer) : Option Lexer := do
  if !l.inFlow && !l.keyAllowed then none
  let l ← (l.rollIndent l.cursor.mark.column none .blockMappingStart).dropKey
  return { l.emit .key with keyAllowed := !l.inFlow, cursor := l.cursor.skip }

/-- The lexer after the colon before a value. -/
def fetchValue (l : Lexer) : Option Lexer :=
  match l.keys with
  | some k :: rest =>
    -- The key began where its candidate was noted.
    let l := (l.insertAt k.position .key).rollIndent k.mark.column (some k.position)
      .blockMappingStart
    some { l.emit .value with
      keys := none :: rest, keyAllowed := false, cursor := l.cursor.skip }
  | _ =>
    if !l.inFlow && !l.keyAllowed then none
    else
      let l := l.rollIndent l.cursor.mark.column none .blockMappingStart
      some { l.emit .value with keyAllowed := !l.inFlow, cursor := l.cursor.skip }

/-- The lexer after a token that may be, or stand in front of, a key. -/
def fetchKeyed (l : Lexer) (scan : Lexer → Option (Token × Cursor)) : Option Lexer := do
  let l ← l.saveKey
  let (token, cursor) ← scan l
  return { l.emit token with keyAllowed := false, cursor }

/-- Whether a plain scalar may start here. -/
def startsPlain (inFlow : Bool) : List Char → Bool
  | [] => false
  | c :: rest =>
    let nextIsBlank := match rest with
      | n :: _ => isBlank n
      | [] => false
    if c = '-' then !nextIsBlank
    else if c = '?' || c = ':' then !inFlow && !startsBlank rest
    else !(isBlank c || ",[]\x7b\x7d#&*!|>'\"%@".toList.contains c || c.val == 0x60)

/-- The lexer after a plain scalar. -/
def fetchPlain (fuel : Nat) (l : Lexer) : Option Lexer := do
  let l ← l.saveKey
  let (text, newLine, cursor) ← scanPlain fuel l.inFlow (l.indent + 1).toNat {} l.cursor
  return { l.emit (.scalar (String.ofList text) true) with keyAllowed := newLine, cursor }

/-- The lexer after a block scalar. -/
def fetchBlockScalar (fuel : Nat) (l : Lexer) (literal : Bool) : Option Lexer := do
  let l ← l.dropKey
  let (text, cursor) ← scanBlock fuel literal l.indent l.cursor.skip
  return { l.emit (.scalar (String.ofList text) false) with keyAllowed := true, cursor }

/-- The lexer after a directive. -/
def fetchDirective (l : Lexer) : Option Lexer := do
  let l ← (l.unrollIndent (-1)).dropKey
  let (token, cursor) ← scanDirective l.cursor
  return { l.emit token with keyAllowed := false, cursor }

/-- The lexer after the token at the cursor, which stands at a character of it.

The fuel is more than the number of characters that are left. -/
def fetch (fuel : Nat) (l : Lexer) : Option Lexer :=
  let atStart := l.cursor.mark.column = 0
  let quoted (single : Bool) := l.fetchKeyed fun l =>
    (scanQuoted fuel single {} l.cursor.skip).map fun (text, c) =>
      (.scalar (String.ofList text) false, c)
  match l.cursor.rest with
  | [] => none
  | c :: rest =>
    if atStart && c == '%' then l.fetchDirective
    else if l.cursor.atDocumentMarker then
      l.fetchMarker (if c == '-' then .documentStart else .documentEnd)
    else if c == '[' then l.fetchFlowStart .flowSequenceStart
    else if c == '\x7b' then l.fetchFlowStart .flowMappingStart
    else if c == ']' then l.fetchFlowEnd .flowSequenceEnd
    else if c == '\x7d' then l.fetchFlowEnd .flowMappingEnd
    else if c == ',' then do
      let l ← l.dropKey
      return { l.emit .flowEntry with keyAllowed := true, cursor := l.cursor.skip }
    else if c == '-' && startsBlank rest then l.fetchBlockEntry
    else if c == '?' && (l.inFlow || startsBlank rest) then l.fetchKey
    else if c == ':' && (l.inFlow || startsBlank rest) then l.fetchValue
    else if c == '*' then l.fetchKeyed fun l => (scanName l.cursor.skip).map fun (n, c) => (.alias n, c)
    else if c == '&' then l.fetchKeyed fun l => (scanName l.cursor.skip).map fun (n, c) => (.anchor n, c)
    else if c == '!' then l.fetchKeyed fun l => scanTag fuel l.inFlow l.cursor
    else if c == '|' && !l.inFlow then fetchBlockScalar fuel l true
    else if c == '>' && !l.inFlow then fetchBlockScalar fuel l false
    else if c == '\'' then quoted true
    else if c == '"' then quoted false
    else if startsPlain l.inFlow (c :: rest) then fetchPlain fuel l
    else none

/-- Reads tokens to the end of the text; each takes at least one character.

The fuel is more than the number of characters that are left. -/
def run : Nat → Lexer → Option (List Token)
  | fuel, l => do
    let l ← (toNextToken fuel l).dropStale
    if l.cursor.rest.isEmpty then
      let l ← (l.unrollIndent (-1)).dropKey
      return l.tokens.reverse
    else match fuel with
      | 0 => none
      | fuel + 1 => run fuel (← fetch (fuel + 1) (l.unrollIndent l.cursor.mark.column))

end Lexer

/-- The tokens of a YAML stream; none if the text has a character or form that YAML lacks. -/
def tokens? (text : String) : Option (List Token) :=
  let cs := text.toList
  if cs.all isAllowed then
    Lexer.run (cs.length + 1) { cursor := ⟨⟨0, 0, 0⟩, cs⟩ }
  else none

end ControlPlane.Yaml
