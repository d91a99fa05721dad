import ControlPlane.Decimal.Reader
import ControlPlane.Json.Parser
import ControlPlane.Text.Blank

/-! Internet addresses in their strict textual forms. -/

namespace ControlPlane.Net

/-- The bytes of a dotted address at the head of a text: four numbers without padding zeros. -/
def readIpv4? (cs : List Char) : Option (List Nat × List Char) :=
  go 4 cs
where
  /-- A byte of one to three digits. -/
  byte? (cs : List Char) : Option (Nat × List Char) :=
    let digits := cs.takeWhile Char.isDigit
    let value := Decimal.natOfDigits digits
    if digits.isEmpty || 3 < digits.length || 255 < value then none
    else if digits.head? == some '0' && 1 < digits.length then none
    else some (value, cs.drop digits.length)
  go : Nat → List Char → Option (List Nat × List Char)
    | 0, cs => some ([], cs)
    | left + 1, cs => do
      let (value, rest) ← byte? cs
      if left = 0 then return ([value], rest)
      match rest with
      | '.' :: rest => do
        let (values, rest) ← go left rest
        return (value :: values, rest)
      | _ => none

/-- A group of one to four hexadecimal digits. -/
def readGroup? (cs : List Char) : Option (Nat × List Char) :=
  let digits := cs.takeWhile fun c => (Json.Token.hexDigit? c).isSome
  if digits.isEmpty || 4 < digits.length then none
  else some (digits.foldl (fun n c => n * 16 + (Json.Token.hexDigit? c).getD 0) 0,
    cs.drop digits.length)

/-- Up to `limit` groups with colons between them, the last two possibly as a dotted address.

The answer tells whether a dotted address closed the groups. -/
def readGroups (limit : Nat) (first : Bool) (cs : List Char) : List Nat × Bool × List Char :=
  match limit with
  | 0 => ([], false, cs)
  | limit + 1 =>
    let start? := match first, cs with
      | true, _ => some cs
      | false, ':' :: rest => some rest
      | false, _ => none
    match start? with
    | none => ([], false, cs)
    | some start =>
      match (if 0 < limit then readIpv4? start else none) with
      | some ([a, b, c, d], rest) => ([a * 256 + b, c * 256 + d], true, rest)
      | _ =>
        match readGroup? start with
        | none => ([], false, cs)
        | some (group, rest) =>
          let (groups, dotted, rest) := readGroups limit false rest
          (group :: groups, dotted, rest)

/-- The eight groups of an address at the head of a text. -/
def readIpv6? (cs : List Char) : Option (List Nat × List Char) :=
  match readGroups 8 true cs with
  | (head, dotted, rest) =>
    if head.length = 8 then some (head, rest)
    else if dotted then none
    else match rest with
      | ':' :: ':' :: rest =>
        let (tail, _, rest) := readGroups (7 - head.length) true rest
        some (head ++ List.replicate (8 - head.length - tail.length) 0 ++ tail, rest)
      | _ => none

/-- The address that a whole text denotes. -/
def parseIpv4? (cs : List Char) : Option (List Nat) :=
  match readIpv4? cs with
  | some (bytes, []) => some bytes
  | _ => none

/-- The address that a whole text denotes. -/
def parseIpv6? (cs : List Char) : Option (List Nat) :=
  match readIpv6? cs with
  | some (groups, []) => some groups
  | _ => none

/-- Whether a host is written as an address rather than as a name. -/
def isAddress (host : String) : Bool :=
  let cs := host.toList
  (parseIpv4? cs).isSome || (parseIpv6? cs).isSome

/-- The text of a dotted address. -/
def ipv4Text (bytes : List Nat) : String :=
  String.intercalate "." (bytes.map Json.Literal.natText)

/-- The lower-case hexadecimal digits of a number. -/
def hexText (n : Nat) : String := String.ofList (Nat.toDigits 16 n)

/-- Where the longest run of two or more zero groups starts, and its length. -/
def longestZeros (groups : List Nat) : Option (Nat × Nat) :=
  let run (start : Nat) : Nat := ((groups.drop start).takeWhile (· == 0)).length
  (List.range groups.length).foldl (fun best start =>
    let length := run start
    let longest := match best with
      | some (_, l) => l
      | none => 1
    if longest < length then some (start, length) else best) none

/-- The text of an address with its longest run of zero groups left out. -/
def ipv6Text (groups : List Nat) : String :=
  let join (gs : List Nat) : String := String.intercalate ":" (gs.map hexText)
  match longestZeros groups with
  | none => join groups
  | some (start, length) => join (groups.take start) ++ "::" ++ join (groups.drop (start + length))

/-- An address and a port, as `a.b.c.d:port` or `[groups]:port`, perhaps with a scope. -/
structure SocketAddress where
  host : String
  port : Nat
deriving DecidableEq, Repr

/-- The port number that a whole text denotes. -/
def readPort? (cs : List Char) : Option Nat :=
  if cs.isEmpty || !cs.all Char.isDigit then none
  else
    let value := Decimal.natOfDigits cs
    if value < 65536 then some value else none

/-- The text after a percent sign and the number of a scope, if they come next. -/
def afterScope (cs : List Char) : List Char :=
  match cs with
  | '%' :: rest =>
    let digits := rest.takeWhile Char.isDigit
    if digits.isEmpty || Nat.pow 2 32 ≤ Decimal.natOfDigits digits then cs
    else rest.dropWhile Char.isDigit
  | _ => cs

/-- The socket address that a text denotes. -/
def SocketAddress.parse? (text : String) : Option SocketAddress :=
  match text.toList with
  | '[' :: rest =>
    match (readIpv6? rest).map fun (groups, rest) => (groups, afterScope rest) with
    | some (groups, ']' :: ':' :: port) =>
      (readPort? port).map fun p => ⟨"[" ++ ipv6Text groups ++ "]", p⟩
    | _ => none
  | cs =>
    match readIpv4? cs with
    | some (bytes, ':' :: port) => (readPort? port).map fun p => ⟨ipv4Text bytes, p⟩
    | _ => none

end ControlPlane.Net
