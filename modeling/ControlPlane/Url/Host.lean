import ControlPlane.Net.Address
import ControlPlane.Url.HostName

/-! The host of a URL: a name, a dotted address, or a bracketed address. -/

namespace ControlPlane.Url

/-- Why a text is not a URL. -/
inductive Error where
  | emptyHost | invalidHostName | invalidPort | invalidIpv4 | invalidIpv6 | invalidHostCharacter
  | noScheme
deriving DecidableEq, Repr

/-- The wording of an error. -/
def Error.message : Error → String
  | .emptyHost => "empty host"
  | .invalidHostName => "invalid international domain name"
  | .invalidPort => "invalid port number"
  | .invalidIpv4 => "invalid IPv4 address"
  | .invalidIpv6 => "invalid IPv6 address"
  | .invalidHostCharacter => "invalid domain character"
  | .noScheme => "relative URL without a base"

/-- The bytes of a text with every `%` and two hexadecimal digits read as one byte. -/
def percentDecode : List UInt8 → List UInt8
  | [] => []
  | [b] => [b]
  | [b, c] => [b, c]
  | b :: h :: l :: rest =>
    let digit? (b : UInt8) : Option Nat := Json.Token.hexDigit? (Char.ofNat b.toNat)
    match (if b = 0x25 then digit? h else none), digit? l with
    | some high, some low => (high * 16 + low).toUInt8 :: percentDecode rest
    | _, _ => b :: percentDecode (h :: l :: rest)

/-- The text of a byte in escaped form. -/
def escapeByte (b : UInt8) : List Char :=
  let digit (n : Nat) : Char := if n < 10 then Char.ofNat (48 + n) else Char.ofNat (55 + n)
  ['%', digit (b.toNat / 16), digit (b.toNat % 16)]

/-- A character, or the escaped bytes of its UTF-8 form. -/
def escapeUnless (plain : Char → Bool) (c : Char) : List Char :=
  if plain c then [c] else (String.singleton c).toUTF8.toList.flatMap escapeByte

/-- One number of a dotted address: hexadecimal, octal or decimal by its beginning. -/
def ipv4Number? (part : List Char) : Option Nat :=
  match part with
  | [] => none
  | '0' :: 'x' :: digits | '0' :: 'X' :: digits =>
    digits.foldlM (fun n c => (Json.Token.hexDigit? c).map (n * 16 + ·)) 0
  | '0' :: digit :: digits =>
    (digit :: digits).foldlM (fun n c =>
      if '0' ≤ c ∧ c ≤ '7' then some (n * 8 + (c.toNat - 48)) else none) 0
  | _ => part.foldlM (fun n c => if c.isDigit then some (n * 10 + (c.toNat - 48)) else none) 0

/-- Whether a host ends in a number, so that it must be an address. -/
def endsInNumber (name : List Char) : Bool :=
  let parts := (Text.cutAt (· == '.') name).reverse
  let last := match parts with
    | [] :: rest => rest.head?.getD []
    | part :: _ => part
    | [] => []
  (ipv4Number? last).isSome || (!last.isEmpty && last.all Char.isDigit)

/-- The bytes of an address whose last number fills up what the others leave. -/
def ipv4? (name : List Char) : Option (List Nat) := do
  let parts := Text.cutAt (· == '.') name
  let parts := if parts.getLast? = some [] then parts.dropLast else parts
  if 4 < parts.length then none
  let numbers ← parts.mapM ipv4Number?
  let last ← numbers.getLast?
  let others := numbers.dropLast
  if others.any (255 < ·) then none
  if Nat.pow 256 (4 - others.length) ≤ last then none
  let width := 4 - others.length
  return others ++ (List.range width).map fun i => last / Nat.pow 256 (width - 1 - i) % 256

/-- The host that a text denotes where names are domain names. -/
def domainHost (text : List Char) : Except Error String :=
  match text with
  | '[' :: rest =>
    if text.getLast? ≠ some ']' then .error .invalidIpv6
    else match Net.parseIpv6? rest.dropLast with
      | some groups => .ok ("[" ++ Net.ipv6Text groups ++ "]")
      | none => .error .invalidIpv6
  | _ =>
    -- Without an escape the text is its own decoded form.
    let decoded := if text.contains '%' then
        (String.fromUTF8? ⟨(percentDecode (String.ofList text).toUTF8.toList).toArray⟩).map
          String.toList
      else some text
    match decoded.bind HostName.toAscii? with
    | none => .error .invalidHostName
    | some [] => .error .emptyHost
    | some name =>
      if endsInNumber name then
        match ipv4? name with
        | some bytes => .ok (Net.ipv4Text bytes)
        | none => .error .invalidIpv4
      else .ok (String.ofList name)

/-- The host that a text denotes where names are opaque. -/
def opaqueHost (text : List Char) : Except Error String :=
  match text with
  | '[' :: rest =>
    if text.getLast? ≠ some ']' then .error .invalidIpv6
    else match Net.parseIpv6? rest.dropLast with
      | some groups => .ok ("[" ++ Net.ipv6Text groups ++ "]")
      | none => .error .invalidIpv6
  | _ =>
    if text.any fun c => c == '\x00' || "\t\n\r #/:<>?@[\\]^|".toList.contains c then
      .error .invalidHostCharacter
    else .ok (String.ofList (text.flatMap (escapeUnless fun c => 0x20 ≤ c.val && c.val < 0x7F)))

end ControlPlane.Url
