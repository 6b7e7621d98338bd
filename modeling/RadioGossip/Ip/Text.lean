import RadioGossip.Ip.Address
import RadioGossip.Text.Digits

/-!
# Internet addresses in words

An address of four octets is written as four decimal numbers between dots, without leading zeros.
An address of eight groups is written as hexadecimal numbers between colons; the longest run of at
least two zero groups, the first of several, shrinks to a double colon, and an address that embeds
four octets after `::ffff:` shows them with dots.

Reading is wider than writing: hexadecimal digits of either case, groups of up to four digits with
leading zeros, a double colon for one zero group or more in any place, and four octets with dots in
place of the last two groups.
-/

namespace RadioGossip

namespace IpAddress

/-! ## Writing -/

/-- Four octets between dots. -/
def quadText (a b c d : UInt8) : String := s!"{a}.{b}.{c}.{d}"

/-- A group in lower-case hexadecimal without leading zeros. -/
def groupText (group : UInt16) : String := String.ofList (Nat.toDigits 16 group.toNat)

/-- Groups between colons. -/
def groupsText (groups : List UInt16) : String := ":".intercalate (groups.map groupText)

/-- The number of zero groups at the front. -/
def leadingZeros (groups : List UInt16) : Nat := (groups.takeWhile (· == 0)).length

/-- Start and length of the longest run of zero groups, the first of several. -/
def longestZeros : List UInt16 → Nat × Nat
  | [] => (0, 0)
  | group :: groups =>
    let here := leadingZeros (group :: groups)
    let (start, length) := longestZeros groups
    if here ≠ 0 ∧ length ≤ here then (0, here) else (start + 1, length)

/-- An address in words. -/
def text : IpAddress → String
  | v4 a b c d => quadText a b c d
  | v6 0 0 0 0 0 0xFFFF g h =>
    "::ffff:" ++ quadText (g >>> 8).toUInt8 g.toUInt8 (h >>> 8).toUInt8 h.toUInt8
  | v6 a b c d e f g h =>
    let groups := [a, b, c, d, e, f, g, h]
    let (start, length) := longestZeros groups
    if 1 < length then
      groupsText (groups.take start) ++ "::" ++ groupsText (groups.drop (start + length))
    else groupsText groups

/-! ## Reading -/

/-- A number of at most `most` digits that takes all the digits there are. A leading zero is
refused before other digits unless `padded`. -/
def readNumber (radix most : Nat) (padded : Bool) (cs : List Char) : Option (Nat × List Char) :=
  let (digits, rest) := Text.takeDigits radix cs
  if digits.isEmpty ∨ most < digits.length then none
  else if !padded && digits.head? == some 0 && 1 < digits.length then none
  else some (digits.foldl (· * radix + ·) 0, rest)

/-- An octet in decimal. -/
def readOctet (cs : List Char) : Option (UInt8 × List Char) := do
  let (value, rest) ← readNumber 10 3 false cs
  if value < 256 then some (UInt8.ofNat value, rest) else none

/-- Takes one given character. -/
def readChar (expected : Char) : List Char → Option (List Char)
  | [] => none
  | c :: cs => if c = expected then some cs else none

/-- Four octets between dots. -/
def readQuad (cs : List Char) : Option ((UInt8 × UInt8 × UInt8 × UInt8) × List Char) := do
  let (a, cs) ← readOctet cs
  let (b, cs) ← readOctet (← readChar '.' cs)
  let (c, cs) ← readOctet (← readChar '.' cs)
  let (d, cs) ← readOctet (← readChar '.' cs)
  return ((a, b, c, d), cs)

/-- The colon before every group but the first. -/
def readColon (first : Bool) (cs : List Char) : Option (List Char) :=
  if first then some cs else readChar ':' cs

/-- As many groups as stand there and have room, whether the last two of them were written as four
octets, and the rest. -/
def readGroups : (room : Nat) → (first : Bool) → List Char → List UInt16 × Bool × List Char
  | 0, _, cs => ([], false, cs)
  | room + 1, first, cs =>
    match if room = 0 then none else (readColon first cs).bind readQuad with
    | some ((a, b, c, d), rest) => ([groupOf a b, groupOf c d], true, rest)
    | none =>
      match (readColon first cs).bind (readNumber 16 4 true) with
      | none => ([], false, cs)
      | some (group, rest) =>
        let (groups, quad, rest) := readGroups room false rest
        (UInt16.ofNat group :: groups, quad, rest)

/-- The address of eight groups. -/
def ofGroups? : List UInt16 → Option IpAddress
  | [a, b, c, d, e, f, g, h] => some (v6 a b c d e f g h)
  | _ => none

/-- Eight groups, or fewer around a double colon. Dotted octets may not stand before it. -/
def readV6 (cs : List Char) : Option (IpAddress × List Char) := do
  let (head, quad, rest) := readGroups 8 true cs
  if head.length = 8 then return (← ofGroups? head, rest)
  if quad then none
  let rest ← readChar ':' (← readChar ':' rest)
  let (tail, _, rest) := readGroups (7 - head.length) true rest
  let zeros := List.replicate (8 - head.length - tail.length) 0
  return (← ofGroups? (head ++ zeros ++ tail), rest)

/-- An address of either family at the front. -/
def read (cs : List Char) : Option (IpAddress × List Char) :=
  match readQuad cs with
  | some ((a, b, c, d), rest) => some (v4 a b c d, rest)
  | none => readV6 cs

/-- The address that a text spells, with nothing before or after it. -/
def ofText? (text : String) : Option IpAddress :=
  match read text.toList with
  | some (address, []) => some address
  | _ => none

end IpAddress

end RadioGossip
