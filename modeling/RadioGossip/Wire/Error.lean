/-!
# What can be wrong with a wire record

A record is refused for one of four causes: the byte string ends inside a field, an update names
an operation nobody knows, a path is not text, or a field is too long for the length that stands
before it on the wire. The first three can only be met while reading, the last one only while
writing.
-/

namespace RadioGossip

/-- The fields of the wire records, as refusals name them. -/
inductive Field where
  | contactType
  | callsignLength
  | callsign
  | ipCount
  | ipType
  | ipLength
  | ipAddress
  | ipList
  | version
  | sequence
  | ttl
  | flags
  | pathLength
  | path
  | payloadType
  | payloadLength
  | payload
  | ackSequence
  | updateOperation
  | updateLength
  | updateData
  | queryCount
  | querySequence
  | cacheQuery
  | responseCount
  | cacheResponse
  deriving DecidableEq, Repr

/-- The name of a field in a refusal. -/
def Field.name : Field → String
  | contactType => "contact type"
  | callsignLength => "callsign length"
  | callsign => "callsign"
  | ipCount => "ip count"
  | ipType => "ip type"
  | ipLength => "ip length"
  | ipAddress => "ip address"
  | ipList => "ip list"
  | version => "version"
  | sequence => "sequence"
  | ttl => "ttl"
  | flags => "flags"
  | pathLength => "path length"
  | path => "path"
  | payloadType => "payload type"
  | payloadLength => "payload length"
  | payload => "payload"
  | ackSequence => "ack sequence"
  | updateOperation => "update operation"
  | updateLength => "update length"
  | updateData => "update data"
  | queryCount => "query count"
  | querySequence => "query sequence"
  | cacheQuery => "cache query"
  | responseCount => "response count"
  | cacheResponse => "cache response"

/-- Why a wire record cannot be read or written. -/
inductive WireError where
  /-- The byte string ends before the field does. -/
  | truncated (field : Field) (needed remaining : Nat)
  /-- The operation byte of an update has no meaning. -/
  | unknownOperation (tag : UInt8)
  /-- The bytes of a path are not UTF-8. -/
  | pathNotText
  /-- The field is longer than its length on the wire can say. -/
  | tooLong (field : Field) (length max : Nat)
  deriving DecidableEq, Repr

namespace WireError

/-- A record is malformed when reading it failed. A field that is too long has no record at all. -/
def isMalformed : WireError → Bool
  | tooLong .. => false
  | _ => true

/-- The refusal in words. -/
def message : WireError → String
  | truncated field needed remaining =>
    s!"Malformed message: truncated {field.name}: need {needed} bytes, {remaining} remaining"
  | unknownOperation tag => s!"Malformed message: unknown update operation {tag}"
  | pathNotText => "Malformed message: path is not valid UTF-8"
  | tooLong field length max => s!"{field.name} too long: {length} bytes (max: {max})"

end WireError

/-- Refuses a field that is longer than `max` bytes or entries. -/
def checkLength (field : Field) (length max : Nat) : Except WireError Unit :=
  if max < length then .error (.tooLong field length max) else .ok ()

end RadioGossip
