import RadioGossip.Text.Unprintable

/-!
# Quoted text

For an operator who has to see every character, a text is shown between quotes. Quotes, backslashes
and line ends in it are escaped, and so is whatever is unprintable.
-/

namespace RadioGossip

namespace Text

/-- A character between quotes. -/
def quotedChar (c : Char) : String :=
  if c = '"' then "\\\""
  else if c = '\\' then "\\\\"
  else if c = '\n' then "\\n"
  else if c = '\r' then "\\r"
  else if c = '\t' then "\\t"
  else if c = '\x00' then "\\0"
  else if isUnprintable c then
    "\\u\x7b" ++ String.ofList (Nat.toDigits 16 c.toNat) ++ "\x7d"
  else String.singleton c

/-- A text between quotes. -/
def quoted (text : String) : String :=
  "\"" ++ String.join (text.toList.map quotedChar) ++ "\""

end Text

end RadioGossip
