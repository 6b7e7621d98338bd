import RadioGossip.Ip.Text

/-!
# Hosts that say their address

A **host** says its address if nothing has to be looked up to find it. Besides an address in words,
it may be one of these.

* An address of four octets **in short**: one to four numbers between dots, the last of which stands
  for all octets that are left. Every number is hexadecimal after `0x`, octal after another zero and
  decimal otherwise.
* An address of eight groups with a **zone** after a percent sign, which is a decimal number of 32
  bits. An address that means something only within a machine or a link may also have the name of an
  interface there. Only the name of the interface that every machine has, `lo`, is known, which may
  carry a label behind a colon.
* The name that every machine has for itself, `localhost`, in letters of either case.
-/

namespace RadioGossip

namespace IpAddress

/-- A number of at most 32 bits at the front, whose first characters tell its radix. -/
def readAnyNumber : List Char → Option (Nat × List Char)
  | '0' :: 'x' :: cs => Text.readNumber 16 UInt32.size cs
  | '0' :: 'X' :: cs => Text.readNumber 16 UInt32.size cs
  | '0' :: cs => Text.readNumber 8 UInt32.size ('0' :: cs)
  | cs => Text.readNumber 10 UInt32.size cs

/-- The value of an address in short that has `room` octets. -/
def readShort : (room : Nat) → List Char → Option Nat
  | 0, _ => none
  | room + 1, cs =>
    match readAnyNumber cs with
    | some (last, []) => if last < 256 ^ (room + 1) then some last else none
    | some (number, '.' :: rest) =>
      if number < 256 then (readShort room rest).map (number * 256 ^ room + ·) else none
    | _ => none

/-- The address of four octets that a number stands for. -/
def ofNumber (value : Nat) : IpAddress :=
  .v4 (.ofNat (value >>> 24)) (.ofNat (value >>> 16)) (.ofNat (value >>> 8)) (.ofNat value)

/-- The address of a text that holds it in short. -/
def ofShort? (text : String) : Option IpAddress := (readShort 4 text.toList).map ofNumber

/-- Whether an address means something only within a machine or a link. Besides the addresses of
links there are those of groups of receivers, whose reach is one machine or one link. -/
def isLocal : IpAddress → Bool
  | v4 .. => false
  | v6 a .. => a &&& 0xFFC0 == 0xFE80 || a &&& 0xFF0F == 0xFF01 || a &&& 0xFF0F == 0xFF02

/-- Whether a zone names the interface that every machine has. With its label a name has room in
fifteen bytes, none of which is zero. -/
def isLoopbackName (zone : List Char) : Bool :=
  zone.takeWhile (· ≠ ':') == ['l', 'o'] && (String.ofList zone).utf8ByteSize < 16
    && !zone.contains '\x00'

/-- The address of a text that holds it with a zone. -/
def ofZoned? (text : String) : Option IpAddress := do
  let (address, rest) ← readV6 text.toList
  let zone ← readChar '%' rest
  if (Text.numberOf? 10 UInt32.size zone).isSome || (address.isLocal && isLoopbackName zone) then
    some address
  else none

/-- This machine as it calls itself. -/
def localhost : IpAddress := .v4 127 0 0 1

/-- The address that a host says. -/
def ofHost? (host : String) : Option IpAddress :=
  if host.toLower = "localhost" then some localhost
  else ((ofText? host).or (ofShort? host)).or (ofZoned? host)

end IpAddress

end RadioGossip
