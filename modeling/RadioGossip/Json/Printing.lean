import RadioGossip.Json.Value

/-!
# From values to text

A value is written with one item or member a line, two spaces deeper for every level; an empty array
or object takes no lines of its own. In a string the quote, the backslash and control characters are
escaped, and nothing else.
-/

namespace RadioGossip

namespace Json

/-- A hexadecimal digit in lower case. -/
def hexDigit (value : Nat) : Char := if value < 10 then .ofNat (48 + value) else .ofNat (87 + value)

/-- A character as it stands in a string. -/
def escapeChar (c : Char) : List Char :=
  if c = '"' then ['\\', '"']
  else if c = '\\' then ['\\', '\\']
  else if c = '\x08' then ['\\', 'b']
  else if c = '\x0c' then ['\\', 'f']
  else if c = '\n' then ['\\', 'n']
  else if c = '\r' then ['\\', 'r']
  else if c = '\t' then ['\\', 't']
  else if c.toNat < 0x20 then
    ['\\', 'u', '0', '0', hexDigit (c.toNat / 16), hexDigit (c.toNat % 16)]
  else [c]

/-- A text as a string. -/
def quote (text : String) : List Char := '"' :: (text.toList.flatMap escapeChar ++ ['"'])

/-- The start of a line at a depth. -/
def lineStart (depth : Nat) : List Char := '\n' :: List.replicate (2 * depth) ' '

/-- A key, with what stands between it and its value. -/
def keyStart (key : Option String) : List Char := quote (key.getD "") ++ [':', ' ']

mutual

/-- A value at a depth. What has no text of its own is written as null. -/
def Value.render (depth : Nat) : Value → List Char
  | .null => ['n', 'u', 'l', 'l']
  | .bool true => ['t', 'r', 'u', 'e']
  | .bool false => ['f', 'a', 'l', 's', 'e']
  | .natural value => Nat.toDigits 10 value
  | .otherNumber => ['n', 'u', 'l', 'l']
  | .string (some text) => quote text
  | .string none => ['n', 'u', 'l', 'l']
  | .array [] => ['[', ']']
  | .array (item :: items) =>
    '[' :: (lineStart (depth + 1) ++ (item.render (depth + 1) ++ (renderItems (depth + 1) items
      ++ (lineStart depth ++ [']']))))
  | .object [] => ['{', '}']
  | .object ((key, value) :: members) =>
    '{' :: (lineStart (depth + 1) ++ (keyStart key ++ (value.render (depth + 1)
      ++ (renderMembers (depth + 1) members ++ (lineStart depth ++ ['}'])))))

/-- The items of an array after the first. -/
def renderItems (depth : Nat) : List Value → List Char
  | [] => []
  | item :: items =>
    ',' :: (lineStart depth ++ (item.render depth ++ renderItems depth items))

/-- The members of an object after the first. -/
def renderMembers (depth : Nat) : List (Option String × Value) → List Char
  | [] => []
  | (key, value) :: members =>
    ',' :: (lineStart depth ++ (keyStart key ++ (value.render depth
      ++ renderMembers depth members)))

end

/-- The text of a value. -/
def Value.pretty (value : Value) : String := String.ofList (value.render 0)

end Json

end RadioGossip
