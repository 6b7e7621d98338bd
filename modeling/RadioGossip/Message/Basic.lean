import RadioGossip.Contact.Basic
import RadioGossip.Message.Path
import RadioGossip.Message.PayloadKind

/-!
# Messages

A **message** is what stations pass on. Its source and its sequence number are its **key**: two
messages with one key are taken for the same message, whatever else they say. A message carries a
hop budget, the path it took, flags and a payload. On the wire, little-endian, it is

    version (2) · sequence (8) · ttl (1) · flags (1) · contact
      · path length (2) · path · payload kind (1) · payload length (4) · payload
-/

namespace RadioGossip

/-- What tells one message from another. -/
structure Key where
  sequence : UInt64
  source : Contact
  deriving DecidableEq, Repr

namespace Key

/-- The key in words. -/
def text (key : Key) : String := s!"{key.source.callsignText}#{key.sequence}"

/-- The key as it comes back from the wire. -/
def canonical (key : Key) : Key := { key with source := key.source.canonical }

end Key

/-- A message. -/
structure Message where
  version : UInt16
  sequence : UInt64
  ttl : UInt8
  flags : UInt8
  source : Contact
  path : Path
  kind : PayloadKind
  payload : Bytes
  deriving DecidableEq, Repr

namespace Message

/-- The version that stations write. -/
def currentVersion : UInt16 := 1

/-- The flag of a message that is neither kept nor passed on. -/
def noCacheFlag : UInt8 := 1

/-- The flag of a message whose sender wants to hear that it arrived. -/
def ackFlag : UInt8 := 2

/-- The most bytes of a payload that its length on the wire can say. -/
def maxPayloadLength : Nat := 4294967295

/-- A message of the current version without flags, hop budget or path. -/
def make (source : Contact) (sequence : UInt64) (kind : PayloadKind) (payload : Bytes) :
    Message where
  version := currentVersion
  sequence := sequence
  ttl := 0
  flags := 0
  source := source
  path := .empty
  kind := kind
  payload := payload

/-- What tells the message from others. -/
def key (message : Message) : Key := ⟨message.sequence, message.source⟩

/-- Whether the message has this key. The numbers are compared first, as they differ most often. -/
@[inline]
def hasKey (message : Message) (key : Key) : Bool :=
  message.sequence == key.sequence && message.source == key.source

@[simp]
theorem hasKey_iff {message : Message} {key : Key} :
    message.hasKey key = true ↔ message.key = key := by
  obtain ⟨sequence, source⟩ := key
  simp [hasKey, Message.key]

/-- Whether the message is neither kept nor passed on. -/
def isNoCache (message : Message) : Bool := message.flags &&& noCacheFlag != 0

/-- Whether the sender wants to hear that the message arrived. -/
def isAckRequested (message : Message) : Bool := message.flags &&& ackFlag != 0

/-- The message after a hop through a station: the station stands at the end of the path, and the
hop budget is one less, unless it was spent. -/
def hop (message : Message) (callsign : String) : Message :=
  { message with
    path := message.path.append callsign
    ttl := if message.ttl = 0 then 0 else message.ttl - 1 }

/-- The message as it comes back from the wire. -/
def canonical (message : Message) : Message :=
  { message with source := message.source.canonical, kind := message.kind.canonical }

/-- The message in words. -/
def text (message : Message) : String :=
  s!"{message.key.text} ttl={message.ttl} type={message.kind.name} "
    ++ s!"path=[{message.path.text}] {message.payload.length} bytes"

/-! ## The wire format -/

/-- The number of bytes of a message on the wire. -/
def encodedLength (message : Message) : Nat :=
  12 + message.source.encodedLength + 2 + message.path.length + 5 + message.payload.length

/-- The bytes of a message whose path and payload are short enough. -/
def record (message : Message) : Bytes :=
  Bytes.ofWord 2 message.version.toNat ++ Bytes.ofWord 8 message.sequence.toNat
    ++ [message.ttl, message.flags] ++ message.source.encode
    ++ Bytes.ofWord 2 message.path.length ++ message.path.utf8
    ++ message.kind.toByte :: Bytes.ofWord 4 message.payload.length ++ message.payload

/-- A message on the wire. There is none if its path or its payload is too long. -/
def encode (message : Message) : Except WireError Bytes := do
  checkLength .path message.path.length Path.maxLength
  checkLength .payload message.payload.length maxPayloadLength
  return message.record

/-- Reads a path of `length` bytes. -/
def pathReader (length : Nat) : Reader Path := do
  let bytes ← Reader.take .path length
  match Text.ofUtf8? bytes.val with
  | some text => return ⟨text⟩
  | none => Reader.refuse .pathNotText

/-- Reads a message. -/
def reader : Reader Message := do
  let version ← Reader.u16 .version
  let sequence ← Reader.u64 .sequence
  let ttl ← Reader.u8 .ttl
  let flags ← Reader.u8 .flags
  let source ← Contact.reader
  let pathLength ← Reader.u16 .pathLength
  let path ← pathReader pathLength.toNat
  let kind ← Reader.u8 .payloadType
  let payloadLength ← Reader.u32 .payloadLength
  let payload ← Reader.take .payload payloadLength.toNat
  return {
    version, sequence, ttl, flags, source, path
    kind := .ofByte kind
    payload := payload.val }

/-- The message at the front of a byte string. -/
def decode (bytes : Bytes) : Except WireError Message := reader.run bytes

theorem length_record (message : Message) : message.record.length = message.encodedLength := by
  simp only [record, encodedLength, List.length_append, List.length_cons, List.length_nil,
    Bytes.length_ofWord, Contact.length_encode, Path.length_utf8]

end Message

end RadioGossip
