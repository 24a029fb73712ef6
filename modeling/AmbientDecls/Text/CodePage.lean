import AmbientDecls.Text.Utf8

/-! The code page of names in archives that are not marked as UTF-8. -/

namespace AmbientDecls.CodePage

def upper : List Char :=
  ("ÇüéâäàåçêëèïîìÄÅÉæÆôöòûùÿÖÜ¢£¥₧ƒ" ++
    "áíóúñÑªº¿⌐¬½¼¡«»░▒▓│┤╡╢╖╕╣║╗╝╜╛┐" ++
    "└┴┬├─┼╞╟╚╔╩╦╠═╬╧╨╤╥╙╘╒╓╫╪┘┌█▄▌▐▀" ++
    "αßΓπΣσµτΦΘΩδ∞φε∩≡±≥≤⌠⌡÷≈°∙·√ⁿ²■ ").toList

/-- The character of a byte; the lower half is ASCII. -/
def char (b : UInt8) : Char :=
  if b.toNat < 0x80 then Char.ofNat b.toNat else upper.getD (b.toNat - 0x80) ' '

def decode (s : Bytes) : String := String.ofList (s.map char)

end AmbientDecls.CodePage
