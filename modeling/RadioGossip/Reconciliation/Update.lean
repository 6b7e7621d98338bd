import RadioGossip.Message.Basic

/-!
# Reconciliation payloads

Neighbours compare their caches with **updates**. An update is an envelope around the data of one
of two operations:

    operation (1) · data length (2) · data

* a **query** lists the keys that the sender holds: count (4) · count × (sequence (8) · contact);
* an **answer** holds messages the other side lacks: count (4) · count × message.
-/

namespace RadioGossip

/-- What an update asks or tells. -/
inductive UpdateOperation where
  | cacheRequest
  | cacheResponse
  deriving DecidableEq, Repr

namespace UpdateOperation

/-- The byte of an operation on the wire. -/
def toByte : UpdateOperation → UInt8
  | cacheRequest => 0
  | cacheResponse => 1

/-- The operation that a byte names. -/
def ofByte (tag : UInt8) : Except WireError UpdateOperation :=
  if tag = 0 then .ok cacheRequest
  else if tag = 1 then .ok cacheResponse
  else .error (.unknownOperation tag)

/-- The operation in words. -/
def name : UpdateOperation → String
  | cacheRequest => "CacheRequest"
  | cacheResponse => "CacheResponse"

end UpdateOperation

/-! ## The envelope -/

/-- The payload of an update message. -/
structure Update where
  operation : UpdateOperation
  data : Bytes
  deriving DecidableEq, Repr

namespace Update

/-- The most bytes of data that an update carries. -/
def maxDataLength : Nat := 65535

/-- An update on the wire. There is none for data that is too long. -/
def encode (update : Update) : Except WireError Bytes := do
  checkLength .updateData update.data.length maxDataLength
  return update.operation.toByte :: Bytes.ofWord 2 update.data.length ++ update.data

/-- Reads the operation of an update. -/
def operationReader : Reader UpdateOperation := do
  let tag ← Reader.u8 .updateOperation
  match UpdateOperation.ofByte tag with
  | .ok operation => return operation
  | .error cause => Reader.refuse cause

/-- Reads an update. -/
def reader : Reader Update := do
  let operation ← operationReader
  let length ← Reader.u16 .updateLength
  let data ← Reader.take .updateData length.toNat
  return ⟨operation, data.val⟩

/-- The update at the front of a byte string. -/
def decode (bytes : Bytes) : Except WireError Update := reader.run bytes

end Update

/-- The most entries that the count of a query or an answer can say. -/
def maxEntryCount : Nat := 4294967295

/-- The number of bytes that the count before the entries takes. -/
def countLength : Nat := 4

/-! ## Queries -/

/-- The keys that the asking side holds. -/
structure CacheQuery where
  keys : List Key
  deriving DecidableEq, Repr

namespace CacheQuery

/-- One key in a query. -/
def encodeKey (key : Key) : Bytes := Bytes.ofWord 8 key.sequence.toNat ++ key.source.encode

/-- The number of bytes of one key in a query. -/
def keyLength (key : Key) : Nat := 8 + key.source.encodedLength

/-- A query on the wire. -/
def encode (query : CacheQuery) : Except WireError Bytes := do
  checkLength .cacheQuery query.keys.length maxEntryCount
  return Bytes.ofWord countLength query.keys.length ++ query.keys.flatMap encodeKey

/-- Reads one key. -/
def keyReader : Reader Key := do
  let sequence ← Reader.u64 .querySequence
  let source ← Contact.reader
  return ⟨sequence, source⟩

/-- Reads a query. -/
def reader : Reader CacheQuery := do
  let count ← Reader.u32 .queryCount
  let keys ← keyReader.times count.toNat
  return ⟨keys.val⟩

/-- The query at the front of a byte string. -/
def decode (bytes : Bytes) : Except WireError CacheQuery := reader.run bytes

theorem length_encodeKey (key : Key) : (encodeKey key).length = keyLength key := by
  simp [encodeKey, keyLength, Contact.length_encode]

end CacheQuery

/-! ## Answers -/

/-- Messages that the answering side holds and the asking side does not. -/
structure CacheAnswer where
  messages : List Message
  deriving DecidableEq, Repr

namespace CacheAnswer

/-- Messages one after the other, or the refusal of the first that cannot be written. -/
def encodeMessages : List Message → Except WireError Bytes
  | [] => .ok []
  | message :: messages => do
    let first ← message.encode
    let others ← encodeMessages messages
    return first ++ others

/-- An answer on the wire. -/
def encode (answer : CacheAnswer) : Except WireError Bytes := do
  checkLength .cacheResponse answer.messages.length maxEntryCount
  return Bytes.ofWord countLength answer.messages.length ++ (← encodeMessages answer.messages)

/-- Reads an answer. -/
def reader : Reader CacheAnswer := do
  let count ← Reader.u32 .responseCount
  let messages ← Message.reader.times count.toNat
  return ⟨messages.val⟩

/-- The answer at the front of a byte string. -/
def decode (bytes : Bytes) : Except WireError CacheAnswer := reader.run bytes

end CacheAnswer

end RadioGossip
