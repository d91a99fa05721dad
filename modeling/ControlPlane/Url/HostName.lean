import ControlPlane.Unicode.HostMapping
import ControlPlane.Unicode.Normal
import ControlPlane.Unicode.Script
import ControlPlane.Url.Punycode

/-! International host names and their ASCII form. -/

namespace ControlPlane.Url.HostName

/-- An ASCII character that may not stand in a host name. -/
def isForbidden (c : Char) : Bool :=
  c.val ≤ 0x20 || c.val == 0x7F || "%#/:<>?@[\\]^|".toList.contains c

/-- What a character becomes in a host name; none if it is refused. -/
def mapChar? (c : Char) : Option (List Char) :=
  if c.val < 0x80 then some [c.toLower]
  else if !Unicode.hostAdmitted.has c then none
  else if Unicode.hostIgnored.has c then some []
  else some ((Unicode.hostReplacements.replacement? c).getD [c])

/-- A host name in the form that is compared. -/
def mapped? (cs : List Char) : Option (List Char) := do
  let pieces ← cs.mapM mapChar?
  return Unicode.normalize pieces.flatten

/-- Whether a character joins from its left neighbour's side across transparent characters. -/
def joinsLeft (before : List Char) : Bool :=
  match before.dropWhile fun c => Unicode.joiningTypes.valueOf c == 5 with
  | c :: _ => let t := Unicode.joiningTypes.valueOf c; t == 2 || t == 3
  | [] => false

/-- Whether a character joins from its right neighbour's side across transparent characters. -/
def joinsRight (after : List Char) : Bool :=
  match after.dropWhile fun c => Unicode.joiningTypes.valueOf c == 5 with
  | c :: _ => let t := Unicode.joiningTypes.valueOf c; t == 2 || t == 4
  | [] => false

/-- Whether every joiner of a label has the neighbours that it needs. -/
def joinersFit (before : List Char) : List Char → Bool
  | [] => true
  | c :: rest =>
    let afterVirama := match before with
      | p :: _ => Unicode.combiningClass p == 9
      | [] => false
    let fits :=
      if c.val = 0x200D then afterVirama
      else if c.val = 0x200C then afterVirama || (joinsLeft before && joinsRight rest)
      else true
    fits && joinersFit (c :: before) rest

/-- The direction class of a character. -/
def direction (c : Char) : Nat := Unicode.directionClasses.valueOf c

/-- Whether a label keeps to the rules of direction. -/
def directionFits (label : List Char) : Bool :=
  let classes := label.map direction
  let lastStrong := (classes.reverse.dropWhile (· == 10)).head?.getD 11
  match classes with
  | [] => true
  | first :: _ =>
    if first == 1 || first == 2 then
      classes.all (fun k => k != 0 && k != 11) && [1, 2, 3, 4].contains lastStrong &&
        !(classes.contains 3 && classes.contains 4)
    else if first == 0 then
      classes.all (fun k => k != 1 && k != 2 && k != 3 && k != 11) && [0, 4].contains lastStrong
    else false

/-- Whether a label is written from right to left, at least in part. -/
def hasRightToLeft (label : List Char) : Bool :=
  label.any fun c => let k := direction c; 1 ≤ k && k ≤ 3

/-- The mark in front of a label in ASCII form. -/
def acePrefix : List Char := "xn--".toList

/-- A label with its ASCII form decoded; the result must not need any mapping. -/
def decodeLabel? (label : List Char) : Option (List Char) :=
  match Text.afterPrefix? acePrefix label with
  | none => some label
  | some ascii => do
    let decoded ← Punycode.decode? ascii
    if decoded.all (·.val < 0x80) then none
    if (Text.afterPrefix? acePrefix decoded).isSome then none
    if (← mapped? decoded) = decoded then some decoded else none

/-- Whether a decoded label may stand in a host name. -/
def labelFits (label : List Char) : Bool :=
  label.all (fun c => !isForbidden c) &&
    (match label with
      | c :: _ => !Unicode.marks.has c
      | [] => true) &&
    joinersFit [] label

/-- The ASCII form of a label. -/
def encodeLabel (label : List Char) : List Char :=
  if label.all (·.val < 0x80) then label else acePrefix ++ Punycode.encode label

/-- Whether a name has a label in ASCII form. -/
def hasAce (cs : List Char) : Bool :=
  (Text.cutAt (· == '.') cs).any fun label => (Text.afterPrefix? acePrefix label).isSome

/-- The ASCII form of a host name; none if the name breaks a rule. -/
def toAscii? (cs : List Char) : Option (List Char) :=
  let lower := cs.map Char.toLower
  if cs.all (·.val < 0x80) && !hasAce lower then
    if lower.any isForbidden then none else some lower
  else do
    let name ← mapped? cs
    let labels ← (Text.cutAt (· == '.') name).mapM decodeLabel?
    if !labels.all labelFits then none
    if labels.any hasRightToLeft && !labels.all directionFits then none
    return ['.'].intercalate (labels.map encodeLabel)

end ControlPlane.Url.HostName
