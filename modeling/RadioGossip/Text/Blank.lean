/-!
# Blank text

A text is **blank** when it holds nothing but white space, and white space is every character with
the Unicode property of that name. The property covers more than the white space of programs: among
others no-break spaces, the spaces of various widths and the separators of lines and paragraphs.
-/

namespace RadioGossip

namespace Text

/-- Whether a character is white space. -/
def isBlankChar (c : Char) : Bool :=
  let code := c.toNat
  (0x09 ≤ code && code ≤ 0x0D) || code == 0x20 || code == 0x85 || code == 0xA0 || code == 0x1680
    || (0x2000 ≤ code && code ≤ 0x200A) || code == 0x2028 || code == 0x2029 || code == 0x202F
    || code == 0x205F || code == 0x3000

/-- Whether a text holds nothing but white space. -/
def isBlank (text : String) : Bool := text.toList.all isBlankChar

end Text

end RadioGossip
