import ControlPlane.Text.Blank

/-! The media type of a body: its kind, and parameters such as the boundary of its parts. -/

namespace ControlPlane.Http

/-- A media type, with its words and the names of its parameters in lower case. -/
structure MediaType where
  main : String
  sub : String
  parameters : List (String × String) := []
deriving DecidableEq, Repr

namespace MediaType

/-- Whether a character may stand in a word of a media type. -/
def isToken (c : Char) : Bool :=
  c.isAlphanum || "!#$%&'*+-.^_|~".toList.contains c || c == '\x60'

/-- Whether a character may stand between the quotes of a value. -/
def isQuotable (c : Char) : Bool := ' ' ≤ c && c != '\x7f'

/-- A text with its ASCII letters in lower case. -/
def lower (cs : List Char) : String := Text.toLowerAscii (String.ofList cs)

/-- The value of a quoted parameter after its opening quote, and what follows the closing one.

A quote at the very beginning belongs to the value. -/
def quoted? (cs : List Char) : Option (List Char × List Char) :=
  let first := cs.take 1
  let value := first ++ (cs.drop 1).takeWhile (· != '"')
  match (cs.drop 1).dropWhile (· != '"') with
  | _ :: rest => if value.all isQuotable then some (value, rest) else none
  | [] => none

/-- What follows the semicolon after a quoted value, or nothing at the end. -/
def afterQuoted? (cs : List Char) : Option (List Char) :=
  match cs.dropWhile (· == ' ') with
  | [] => some []
  | ';' :: rest => some rest
  | _ => none

/-- The parameters after a semicolon; the fuel is the length of the text. -/
def parameters? : Nat → List Char → Option (List (String × String))
  | 0, cs => if cs.isEmpty then some [] else none
  | fuel + 1, cs =>
    match cs with
    | [] => some []
    | ' ' :: rest => parameters? fuel rest
    | _ =>
      let name := cs.takeWhile isToken
      match name.isEmpty, cs.dropWhile isToken with
      | false, '=' :: '"' :: rest => do
        let (value, rest) ← quoted? rest
        let more ← parameters? fuel (← afterQuoted? rest)
        return (lower name, String.ofList value) :: more
      | false, '=' :: rest =>
        let value := rest.takeWhile isToken
        match value.isEmpty, rest.dropWhile isToken with
        | _, [] => some [(lower name, String.ofList value)]
        | false, ';' :: rest => do
          return (lower name, String.ofList value) :: (← parameters? fuel rest)
        | _, _ => none
      | _, _ => none

/-- The subtype without the suffix after its last plus. -/
def withoutSuffix (cs : List Char) : List Char :=
  match (cs.reverse.dropWhile (· != '+')).drop 1 with
  | [] => cs
  | front => front.reverse

/-- The media type that a text of visible ASCII characters describes. -/
def parse? (text : String) : Option MediaType := do
  let cs := text.toList
  if !cs.all fun c => c == '\t' || (' ' ≤ c && c < '\x7f') then none
  let main := cs.takeWhile isToken
  match main.isEmpty, cs.dropWhile isToken with
  | false, '/' :: rest =>
    let sub := rest.takeWhile isToken
    match sub.isEmpty, rest.dropWhile isToken with
    | true, _ => if rest.isEmpty then return ⟨lower main, "", []⟩ else none
    | false, [] => return ⟨lower main, lower (withoutSuffix sub), []⟩
    | false, ';' :: rest =>
      return ⟨lower main, lower (withoutSuffix sub), ← parameters? rest.length rest⟩
    | _, _ => none
  | _, _ => none

/-- Whether a body of this type is a form with parts. -/
def isForm (type : MediaType) : Bool := type.main == "multipart" && type.sub == "form-data"

/-- The text between the parts of a body. -/
def boundary? (type : MediaType) : Option String :=
  (type.parameters.find? fun (name, _) => name == "boundary").map Prod.snd

end MediaType

end ControlPlane.Http
