import ControlPlane.Unicode.Casing

/-! The lower-case form of a text in full Unicode. -/

namespace ControlPlane.Text

/-- The lower-case form of a character that stands alone. -/
def lowerChar (c : Char) : List Char :=
  if c.val < 0x80 then [c.toLower] else (Unicode.lowerForms.replacement? c).getD [c]

/-- Whether the first character that counts has a case. -/
def startsCased (cs : List Char) : Bool :=
  match cs.dropWhile Unicode.caseIgnorable.has with
  | c :: _ => Unicode.cased.has c
  | [] => false

/-- The lower-case characters of a text, given what stands before it in reverse.

A capital sigma becomes the final form where a word ends. -/
def lowerChars (before : List Char) : List Char → List Char
  | [] => []
  | c :: rest =>
    let lowered :=
      if c = 'Σ' then (if startsCased before && !startsCased rest then ['ς'] else ['σ'])
      else lowerChar c
    lowered ++ lowerChars (c :: before) rest

/-- The lower-case form of a text. -/
def toLower (s : String) : String := String.ofList (lowerChars [] s.toList)

end ControlPlane.Text
