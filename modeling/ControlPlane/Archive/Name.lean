import ControlPlane.Text.Utf8

/-! The names of archive entries, which are UTF-8 or else in the code page of old archives. -/

namespace ControlPlane.Archive

/-- The characters of code page 437 for the bytes from 128 on. -/
def upperHalf : Array Char :=
  ("ÇüéâäàåçêëèïîìÄÅÉæÆôöòûùÿÖÜ¢£¥₧ƒáíóúñÑªº¿⌐¬½¼¡«»░▒▓│┤╡╢╖╕╣║╗╝╜╛┐" ++
    "└┴┬├─┼╞╟╚╔╩╦╠═╬╧╨╤╥╙╘╒╓╫╪┘┌█▄▌▐▀αßΓπΣσµτΦΘΩδ∞φε∩≡±≥≤⌠⌡÷≈°∙·√ⁿ²■\u00A0").toList.toArray

/-- The character of a byte in code page 437. -/
def codePageChar (b : UInt8) : Char :=
  if b < 0x80 then Char.ofNat b.toNat else upperHalf.getD (b.toNat - 128) Text.replacement

/-- The name that an archive gives as bytes. -/
def nameOf (isUtf8 : Bool) (bytes : ByteArray) : String :=
  if isUtf8 then Text.ofUtf8Lossy bytes.toList else String.ofList (bytes.toList.map codePageChar)

end ControlPlane.Archive
