namespace SeedArchive.CodePage437

/-- The characters of the bytes from 128 on. -/
def upper : List Char :=
  ("ÇüéâäàåçêëèïîìÄÅÉæÆôöòûùÿÖÜ¢£¥₧ƒáíóúñÑªº¿⌐¬½¼¡«»░▒▓│┤╡╢╖╕╣║╗╝╜╛┐" ++
    "└┴┬├─┼╞╟╚╔╩╦╠═╬╧╨╤╥╙╘╒╓╫╪┘┌█▄▌▐▀αßΓπΣσµτΦΘΩδ∞φε∩≡±≥≤⌠⌡÷≈°∙·√ⁿ²■ ").toList

/-- Every byte is a character of code page 437; the lower half is ASCII. -/
def char (b : UInt8) : Char :=
  if b < 128 then Char.ofNat b.toNat else upper.getD (b.toNat - 128) ' '

def text (bytes : List UInt8) : String :=
  String.ofList (bytes.map char)

end SeedArchive.CodePage437
