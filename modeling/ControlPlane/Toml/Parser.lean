import ControlPlane.Toml.Scalar
import ControlPlane.Toml.Table
import ControlPlane.Toml.Token

/-! Reading TOML text: tokens to keys and values, and lines to an outline. -/

namespace ControlPlane.Toml

/-- How deep lists and tables may be nested, and how many names a key may have. -/
def maxDepth : Nat := 79

namespace Token

/-- Whether a token is a blank. -/
def isBlank : Token → Bool
  | .space | .tab => true
  | _ => false

/-- Whether a token is a blank or ends a line. -/
def isLayout (token : Token) : Bool :=
  match token with
  | .newline => true
  | _ => token.isBlank

/-- The characters of a token that may be part of an unquoted value. -/
def piece? : Token → Option (List Char)
  | .word chars => some chars
  | .dot => some ['.']
  | _ => none

/-- The name that a token gives in a key. -/
def name? : Token → Option String
  | .word chars => if chars.all isKeyChar then some (String.ofList chars) else none
  | .text false value => some value
  | _ => none

end Token

/-- The tokens after blanks. -/
def afterBlanks (ts : List Token) : List Token := ts.dropWhile Token.isBlank

/-- The tokens after blanks and line ends. -/
def afterLayout (ts : List Token) : List Token := ts.dropWhile Token.isLayout

theorem length_afterBlanks_le (ts : List Token) : (afterBlanks ts).length ≤ ts.length :=
  (List.dropWhile_sublist _).length_le

/-- What follows the first token after blanks is shorter than all the tokens. -/
theorem length_lt_of_afterBlanks {ts rest : List Token} {token : Token}
    (found : afterBlanks ts = token :: rest) : rest.length < ts.length := by
  have bound := length_afterBlanks_le ts
  rw [found] at bound
  exact bound

theorem length_afterLayout_le (ts : List Token) : (afterLayout ts).length ≤ ts.length :=
  (List.dropWhile_sublist _).length_le

/-- The names of a key with dots between them, and the tokens after it and its blanks. -/
def readNames? (ts : List Token) : Option (List String × Shorter ts) :=
  match found : afterBlanks ts with
  | token :: rest =>
    have bound := length_lt_of_afterBlanks found
    match token.name?, next : afterBlanks rest with
    | some name, .dot :: after =>
      have inner := Nat.lt_trans (length_lt_of_afterBlanks next) bound
      match readNames? after with
      | some (names, ⟨after, shorter⟩) =>
        some (name :: names, ⟨after, Nat.lt_trans shorter inner⟩)
      | none => none
    | some name, after =>
      some ([name], ⟨after, Nat.lt_of_le_of_lt (next ▸ length_afterBlanks_le rest) bound⟩)
    | none, _ => none
  | [] => none
termination_by ts.length

/-- A key: its last name, and the names before it. -/
structure Key where
  path : List String
  name : String

/-- The key at the head of the tokens. -/
def readKey? (ts : List Token) : Option (Key × Shorter ts) :=
  match readNames? ts with
  | some (names, rest) =>
    match names.getLast? with
    | some name => if names.length ≤ maxDepth then some (⟨names.dropLast, name⟩, rest) else none
    | none => none
  | none => none

/-- The characters of the tokens that make up an unquoted value, and the tokens after them. -/
def takePieces : List Token → List Char × List Token
  | [] => ([], [])
  | token :: rest =>
    match token.piece? with
    | some piece => (piece ++ (takePieces rest).1, (takePieces rest).2)
    | none => ([], token :: rest)

theorem length_takePieces_le (ts : List Token) : (takePieces ts).2.length ≤ ts.length := by
  induction ts with
  | nil => simp [takePieces]
  | cons token rest ih =>
    cases found : token.piece? with
    | none => simp [takePieces, found]
    | some piece => simp [takePieces, found]; omega

/-- The unquoted value that begins with a piece; a date and its time may have a space between. -/
def readScalar? (piece : List Char) (ts : List Token) : Option (Toml × List Token) :=
  let (chars, rest) := takePieces ts
  let chars := piece ++ chars
  match rest with
  | .space :: .word clock :: after =>
    if Moment.isDate chars then
      let (more, after) := takePieces (.word clock :: after)
      (Scalar.read? (chars ++ ' ' :: more)).map (·, after)
    else (Scalar.read? chars).map (·, rest)
  | rest => (Scalar.read? chars).map (·, rest)

theorem length_le_of_readScalar? {piece : List Char} {ts rest : List Token} {value : Toml}
    (read : readScalar? piece ts = some (value, rest)) : rest.length ≤ ts.length := by
  have bound := length_takePieces_le ts
  unfold readScalar? at read
  cases pieces : takePieces ts with
  | mk chars left =>
    simp only [pieces] at read bound
    split at read
    · rename_i clock after
      split at read
      · have inner := length_takePieces_le (.word clock :: after)
        simp only [Option.map_eq_some_iff, Prod.mk.injEq] at read
        obtain ⟨_, _, _, rfl⟩ := read
        simp at bound inner
        omega
      · simp only [Option.map_eq_some_iff, Prod.mk.injEq] at read
        obtain ⟨_, _, _, rfl⟩ := read
        exact bound
    · simp only [Option.map_eq_some_iff, Prod.mk.injEq] at read
      obtain ⟨_, _, _, rfl⟩ := read
      exact bound

mutual

/-- The value at the head of the tokens, nested at most `depth` deep. -/
def readValue? (depth : Nat) (ts : List Token) : Option (Toml × Shorter ts) :=
  match ts with
  | .text _ value :: rest => some (.text value, ⟨rest, by simp⟩)
  | .openBracket :: rest =>
    if depth = 0 then none else
      match readItems? (depth - 1) rest with
      | some (items, ⟨after, shorter⟩) => some (.list items, ⟨after, by simp; omega⟩)
      | none => none
  | .openBrace :: rest =>
    if depth = 0 then none else
      match opened : afterBlanks rest with
      | .closeBrace :: after =>
        some (.table [], ⟨after, by
          have := length_afterBlanks_le rest
          simp [opened] at this ⊢
          omega⟩)
      | _ =>
        match readPairs? (depth - 1) rest with
        | some (entries, ⟨after, shorter⟩) =>
          match tableOf? entries with
          | some value => some (value, ⟨after, by simp; omega⟩)
          | none => none
        | none => none
  | token :: rest =>
    match token.piece? with
    | some piece =>
      match read : readScalar? piece rest with
      | some (value, after) =>
        some (value, ⟨after, by have := length_le_of_readScalar? read; simp; omega⟩)
      | none => none
    | none => none
  | [] => none
termination_by 3 * ts.length

/-- The values of a list up to its closing bracket, with a comma after each but the last. -/
def readItems? (depth : Nat) (ts : List Token) : Option (List Toml × Shorter ts) :=
  match found : afterLayout ts with
  | .closeBracket :: rest =>
    some ([], ⟨rest, by have := length_afterLayout_le ts; simp [found] at this; omega⟩)
  | inner =>
    have bound : inner.length ≤ ts.length := found ▸ length_afterLayout_le ts
    match readValue? depth inner with
    | some (item, ⟨after, shorter⟩) =>
      match next : afterLayout after with
      | .closeBracket :: rest =>
        some ([item], ⟨rest, by
          have := length_afterLayout_le after
          simp [next] at this
          omega⟩)
      | .comma :: rest =>
        have fewer : rest.length < ts.length := by
          have := length_afterLayout_le after
          simp [next] at this
          omega
        match readItems? depth rest with
        | some (items, ⟨rest, _⟩) => some (item :: items, ⟨rest, by omega⟩)
        | none => none
      | _ => none
    | none => none
termination_by 3 * ts.length + 1

/-- A key, the equals sign, and a value, with the blanks after it. -/
def readPair? (depth : Nat) (ts : List Token) : Option (Assignment × Shorter ts) :=
  match readKey? ts with
  | some (key, ⟨.equals :: rest, shorter⟩) =>
    have bound : (afterBlanks rest).length < ts.length := by
      have := length_afterBlanks_le rest
      simp at shorter
      omega
    match readValue? depth (afterBlanks rest) with
    | some (value, ⟨after, _⟩) =>
      some (⟨key.path, key.name, value⟩, ⟨afterBlanks after, by
        have := length_afterBlanks_le after
        omega⟩)
    | none => none
  | _ => none
termination_by 3 * ts.length + 1

/-- One or more entries with commas between them, up to the closing brace. -/
def readPairs? (depth : Nat) (ts : List Token) : Option (List Assignment × Shorter ts) :=
  match readPair? depth ts with
  | some (entry, ⟨.closeBrace :: rest, shorter⟩) =>
    some ([entry], ⟨rest, by simp at shorter; omega⟩)
  | some (entry, ⟨.comma :: rest, shorter⟩) =>
    have : rest.length < ts.length := by simp at shorter; omega
    match readPairs? depth rest with
    | some (entries, ⟨after, _⟩) => some (entry :: entries, ⟨after, by omega⟩)
    | none => none
  | _ => none
termination_by 3 * ts.length + 2

end

/-- A line of a document. -/
inductive Line where
  | header (isItem : Bool) (key : Key)
  | entry (entry : Assignment)

/-- The line at the head of the tokens, which may begin with blanks and line ends. -/
def readLine? (ts : List Token) : Option (Line × Shorter ts) :=
  match ts with
  | .openBracket :: .openBracket :: rest =>
    match readKey? rest with
    | some (key, ⟨.closeBracket :: .closeBracket :: after, shorter⟩) =>
      some (.header true key, ⟨afterBlanks after, by
        have := length_afterBlanks_le after
        simp at shorter ⊢
        omega⟩)
    | _ => none
  | .openBracket :: rest =>
    match readKey? rest with
    | some (key, ⟨.closeBracket :: after, shorter⟩) =>
      some (.header false key, ⟨afterBlanks after, by
        have := length_afterBlanks_le after
        simp at shorter ⊢
        omega⟩)
    | _ => none
  | ts => (readPair? maxDepth ts).map fun (entry, rest) => (.entry entry, rest)

/-- The lines of a document; each but the last has a line end. -/
def readLines? (ts : List Token) : Option (List Line) :=
  match found : afterLayout ts with
  | [] => some []
  | first :: more =>
    match readLine? (first :: more) with
    | some (line, ⟨[], _⟩) => some [line]
    | some (line, ⟨.newline :: rest, shorter⟩) =>
      have : rest.length < ts.length := by
        have := length_afterLayout_le ts
        simp [found] at this shorter
        omega
      (readLines? rest).map (line :: ·)
    | _ => none
termination_by ts.length

/-- A line put in front of an outline. -/
def Outline.prepend (line : Line) (outline : Outline) : Outline :=
  match line with
  | .entry entry => { outline with entries := entry :: outline.entries }
  | .header isItem key => ⟨[], ⟨isItem, key.path, key.name, outline.entries⟩ :: outline.sections⟩

/-- The outline that lines give. -/
def Outline.ofLines (lines : List Line) : Outline := lines.foldr Outline.prepend ⟨[], []⟩

/-- The table that a TOML text denotes; a byte order mark may stand at its beginning. -/
def parse? (text : String) : Option Toml := do
  let chars := match text.toList with
    | '\uFEFF' :: rest => rest
    | cs => cs
  let tokens ← Token.scan? chars
  let lines ← readLines? tokens
  (Outline.ofLines lines).table?

end ControlPlane.Toml
