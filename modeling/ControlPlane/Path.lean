import ControlPlane.Text.Blank

/-! Paths as sequences of segments, and path templates with variables in braces. -/

namespace ControlPlane.Path

/-- The segments of a path between its slashes, without the empty ones. -/
def segments (path : List Char) : List (List Char) :=
  (Text.cutAt (· == '/') path).filter (!·.isEmpty)

/-- The path of some segments: each with a slash in front of it, or a slash alone. -/
def ofSegments : List (List Char) → List Char
  | [] => ['/']
  | segments => segments.flatMap ('/' :: ·)

/-- A path with one slash in front of each segment and none at its end; the root is a slash. -/
def normalize (path : String) : String := String.ofList (ofSegments (segments path.toList))

/-- Two paths one after the other. -/
def join (first second : String) : String :=
  String.ofList (ofSegments (segments first.toList ++ segments second.toList))

/-- The characters of a path below a base path; a path outside the base stands for itself. -/
def belowBase (base path : List Char) : List Char :=
  if base = ['/'] then path
  else match Text.afterPrefix? base path with
    | some [] => ['/']
    | some ('/' :: rest) => '/' :: rest
    | _ => path

/-- The part of a path below a base path.

A document may spell the base path in its paths, and it must not count twice. -/
def relativeTo (base path : String) : String := String.ofList (belowBase base.toList path.toList)

/-- A path that starts with a slash, without blanks around it. -/
def rooted (path : String) : String :=
  let trimmed := Text.trim path
  if trimmed.toList.head? = some '/' then trimmed else "/" ++ trimmed

/-- A character that may stand in the name of a variable. -/
def isVariableChar (c : Char) : Bool := c.isAlphanum || c == '_'

/-- A template's characters with every foreign one in a variable's name as `_`. -/
def plainVariables (inVariable : Bool) : List Char → List Char
  | [] => []
  | c :: rest =>
    if c = '\x7b' then c :: plainVariables true rest
    else if c = '\x7d' then c :: plainVariables false rest
    else if inVariable && !isVariableChar c then '_' :: plainVariables inVariable rest
    else c :: plainVariables inVariable rest

/-- A template in which the names of variables are letters, digits and `_`. -/
def template (path : String) : String := String.ofList (plainVariables false path.toList)

end ControlPlane.Path
