import ControlPlane.Url.Host

/-! URLs with a scheme: reading one, and its scheme, host, port and path. -/

namespace ControlPlane

/-- A URL, as far as a backend target needs it. -/
structure Url where
  scheme : String
  host : Option String
  /-- The port that is written, if it is not the scheme's own. -/
  port : Option Nat
  path : String
deriving DecidableEq, Repr

namespace Url

/-- The port that a scheme has by itself. -/
def defaultPort? (scheme : String) : Option Nat :=
  if scheme = "http" ∨ scheme = "ws" then some 80
  else if scheme = "https" ∨ scheme = "wss" then some 443
  else if scheme = "ftp" then some 21
  else none

/-- Whether hosts of a scheme are domain names and `\` separates like `/`. -/
def isSpecial (scheme : String) : Bool := (defaultPort? scheme).isSome || scheme == "file"

/-- The port in use. -/
def effectivePort? (url : Url) : Option Nat := url.port.or (defaultPort? url.scheme)

/-- A character of a scheme after its first letter. -/
def isSchemeChar (c : Char) : Bool := c.isAlphanum || c == '+' || c == '-' || c == '.'

/-- The scheme in lower case and what stands after its colon. -/
def splitScheme? (cs : List Char) : Option (List Char × List Char) :=
  match cs with
  | first :: _ =>
    if first.isAlpha then
      match cs.dropWhile isSchemeChar with
      | ':' :: rest => some ((cs.takeWhile isSchemeChar).map Char.toLower, rest)
      | _ => none
    else none
  | [] => none

/-- Whether a character ends the authority. -/
def endsAuthority (special : Bool) (c : Char) : Bool :=
  c == '/' || c == '?' || c == '#' || (special && c == '\\')

/-- The user information before the last `@` of the authority, and what stands after it. -/
def splitUser (special : Bool) (cs : List Char) : Option (List Char) × List Char :=
  let authority := cs.takeWhile fun c => !endsAuthority special c
  let host := (authority.reverse.takeWhile (· ≠ '@')).reverse
  if host.length = authority.length then (none, cs)
  else (some (authority.take (authority.length - host.length - 1)),
    cs.drop (authority.length - host.length))

/-- The length of the host at the head of a text: a colon in brackets does not end it. -/
def hostLength (special inBrackets : Bool) : List Char → Nat
  | [] => 0
  | c :: rest =>
    if c = ':' ∧ ¬inBrackets then 0
    else if endsAuthority special c then 0
    else 1 + hostLength special (if c = '[' then true else if c = ']' then false else inBrackets) rest

/-- The port at the head of a text, if it has digits, and what stands after it. -/
def readPort (cs : List Char) : Except Error (Option Nat × List Char) :=
  let digits := cs.takeWhile Char.isDigit
  let rest := cs.dropWhile Char.isDigit
  let value := digits.foldl (fun n c => n * 10 + (c.toNat - 48)) 0
  let ends := match rest with
    | c :: _ => endsAuthority true c
    | [] => true
  if 65535 < value || !ends then .error .invalidPort
  else .ok (if digits.isEmpty then none else some value, rest)

/-- A character that stands for itself in a path. -/
def isPathChar (c : Char) : Bool :=
  0x20 < c.val && c.val < 0x7F && !("\"#<>?\x7b\x7d".toList.contains c) && c.val != 0x60

/-- A segment that stands for its directory. -/
def isSingleDot (segment : List Char) : Bool :=
  ["." , "%2e"].contains (String.ofList (segment.map Char.toLower))

/-- A segment that stands for the directory above. -/
def isDoubleDot (segment : List Char) : Bool :=
  ["..", ".%2e", "%2e.", "%2e%2e"].contains (String.ofList (segment.map Char.toLower))

/-- A letter and a colon or bar, which no `..` removes. -/
def isDrive (segment : List Char) : Bool :=
  match segment with
  | [letter, mark] => letter.isAlpha && (mark == ':' || mark == '|')
  | _ => false

/-- The segments of a path with dot segments resolved; `done` is the path so far in reverse. -/
def resolve (done : List (List Char)) : List (List Char) → List (List Char)
  | [] => done.reverse
  | segment :: rest =>
    let above := match done with
      | [] => []
      | last :: before => if isDrive last then last :: before else before
    let last := rest.isEmpty
    if isDoubleDot segment then resolve (if last then [] :: above else above) rest
    else if isSingleDot segment then resolve (if last then [] :: done else done) rest
    else resolve (segment :: done) rest

/-- The path at the head of a text up to its query or fragment. -/
def readPath (special : Bool) (cs : List Char) : String :=
  let written := cs.takeWhile fun c => c ≠ '?' && c ≠ '#'
  let isSlash (c : Char) : Bool := c == '/' || (special && c == '\\')
  let relative := match written with
    | c :: rest => if isSlash c then rest else written
    | [] => []
  if written.isEmpty && !special then ""
  else
    let segments := (Text.cutAt isSlash relative).map (·.flatMap (escapeUnless isPathChar))
    String.ofList ((resolve [] segments).flatMap fun segment => '/' :: segment)

/-- Reads what follows the two slashes in front of an authority. -/
def readAuthority (scheme : String) (cs : List Char) : Except Error Url := do
  let special := isSpecial scheme
  let (user, rest) := splitUser special cs
  let ends := match rest with
    | c :: _ => endsAuthority special c
    | [] => false
  if user == some [] && ends then throw .emptyHost
  let length := hostLength special false rest
  let text := rest.take length
  let rest := rest.drop length
  if text.isEmpty && special then throw .emptyHost
  let host ← if special then domainHost text else opaqueHost text
  if host.isEmpty && rest.head? == some ':' then throw .emptyHost
  let (port, rest) ← match rest with
    | ':' :: rest => readPort rest
    | _ => .ok (none, rest)
  -- A user name or password needs a host.
  if host.isEmpty && user.any (fun u => u.any (· ≠ ':') || 1 < u.length) then throw .emptyHost
  return { scheme
           host := if host.isEmpty then none else some host
           port := if port = defaultPort? scheme then none else port
           path := readPath special rest }

/-- Reads what follows the scheme `file`. -/
def readFile (cs : List Char) : Except Error Url := do
  let isSlash (c : Char) : Bool := c == '/' || c == '\\'
  match cs with
  | a :: b :: rest =>
    if isSlash a && isSlash b then
      let text := rest.takeWhile fun c => !endsAuthority true c
      let host ← if text.isEmpty || isDrive text then .ok "" else domainHost text
      let host := if host.isEmpty || host = "localhost" then none else some host
      return ⟨"file", host, none, readPath true (rest.drop text.length)⟩
    else return ⟨"file", none, none, readPath true cs⟩
  | _ => return ⟨"file", none, none, readPath true cs⟩

/-- The URL that a text denotes.

Control characters and spaces around it, and tabs and line breaks within it, do not count. -/
def parse (text : String) : Except Error Url :=
  let isEdge (c : Char) : Bool := c.val ≤ 0x20
  let cs := Text.dropRight isEdge (text.toList.dropWhile isEdge)
  let cs := cs.filter fun c => c ≠ '\t' && c ≠ '\n' && c ≠ '\r'
  match splitScheme? cs with
  | none => .error .noScheme
  | some (scheme, rest) =>
    let scheme := String.ofList scheme
    if scheme = "file" then readFile rest
    else if isSpecial scheme then
      readAuthority scheme (rest.dropWhile fun c => c == '/' || c == '\\')
    else match rest with
      | '/' :: '/' :: rest => readAuthority scheme rest
      | _ => .ok ⟨scheme, none, none, String.ofList (rest.takeWhile fun c => c ≠ '?' && c ≠ '#')⟩

end Url

end ControlPlane
