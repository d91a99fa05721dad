/-! Blank characters, and the removal of blanks around a text. -/

namespace ControlPlane.Text

/-- The characters with the Unicode property White_Space. -/
def isBlank (c : Char) : Bool :=
  let n := c.val
  (0x09 ≤ n && n ≤ 0x0D) || n == 0x20 || n == 0x85 || n == 0xA0 || n == 0x1680 ||
    (0x2000 ≤ n && n ≤ 0x200A) || n == 0x2028 || n == 0x2029 || n == 0x202F || n == 0x205F ||
    n == 0x3000

/-- A list without the characters at its end that satisfy a test. -/
def dropRight (test : Char → Bool) (cs : List Char) : List Char :=
  (cs.reverse.dropWhile test).reverse

/-- A list of characters without the blanks at either end. -/
def trimChars (cs : List Char) : List Char :=
  dropRight isBlank (cs.dropWhile isBlank)

/-- A text without the blanks at either end. -/
def trim (s : String) : String := String.ofList (trimChars s.toList)

/-- The lower-case form of one ASCII letter; every other character stands for itself. -/
def lowerAscii (c : Char) : Char := c.toLower

/-- A text with its ASCII letters in lower case. -/
def toLowerAscii (s : String) : String := String.ofList (s.toList.map lowerAscii)

/-- A text cut at every character that satisfies a test; there is one piece more than cuts. -/
def cutAt (test : Char → Bool) : List Char → List (List Char)
  | [] => [[]]
  | c :: rest =>
    if test c then [] :: cutAt test rest
    else match cutAt test rest with
      | [] => [[c]]
      | piece :: pieces => (c :: piece) :: pieces

/-- The rest of a list after a given beginning, if it has that beginning. -/
def afterPrefix? {α : Type} [DecidableEq α] : List α → List α → Option (List α)
  | [], cs => some cs
  | p :: ps, c :: cs => if p = c then afterPrefix? ps cs else none
  | _ :: _, [] => none

/-- What stands before and after the first occurrence of a word. -/
def cutFirst? {α : Type} [DecidableEq α] (word : List α) : List α → Option (List α × List α)
  | [] => if word.isEmpty then some ([], []) else none
  | c :: rest =>
    match afterPrefix? word (c :: rest) with
    | some after => some ([], after)
    | none => (cutFirst? word rest).map fun (before, after) => (c :: before, after)

/-- Whether a word occurs anywhere in a text. -/
def hasWord (word cs : List Char) : Bool := (cutFirst? word cs).isSome

end ControlPlane.Text
