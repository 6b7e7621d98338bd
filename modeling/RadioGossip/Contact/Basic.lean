import RadioGossip.Contact.Kind
import RadioGossip.Ip.Address
import RadioGossip.Text.Utf8
import RadioGossip.Wire.Reader

/-!
# Contacts

A **contact** identifies a station: its kind, its callsign and the addresses it is known by. Two
contacts are the same when all of this is the same, the addresses in the same order; a message is
told from others by its source contact and its sequence number, so this is what recognising a
message rests on.

On the wire a contact is

    kind (1) · callsign length (1) · callsign · ip count (1) · ips

and each address record is

    family (1) · length (1) · octets

Every length is one byte, and a contact cannot be built with more than a byte can say.
-/

namespace RadioGossip

/-- The most bytes of a callsign or an address record, and the most address records. -/
def maxFieldLength : Nat := 255

/-! ## Address records -/

/-- One address of a contact. Its octets need not make sense for its family. -/
structure IpRecord where
  family : IpFamily
  octets : Bytes
  length_le : octets.length ≤ maxFieldLength
  deriving DecidableEq, Repr

namespace IpRecord

/-- An address record with these octets. -/
def make (family : IpFamily) (octets : Bytes) : Except WireError IpRecord :=
  if short : octets.length ≤ maxFieldLength then .ok ⟨family, octets, short⟩
  else .error (.tooLong .ipAddress octets.length maxFieldLength)

/-- The record of an address. -/
def ofAddress : IpAddress → IpRecord
  | .v4 a b c d => ⟨.v4, (IpAddress.v4 a b c d).octets, by simp [IpAddress.octets, maxFieldLength]⟩
  | .v6 a b c d e f g h =>
    ⟨.v6, (IpAddress.v6 a b c d e f g h).octets,
      by simp [IpAddress.octets, IpAddress.groupOctets, maxFieldLength]⟩

/-- The address of a record, if its family and its length agree. -/
def address? (record : IpRecord) : Option IpAddress :=
  match record.family with
  | .v4 => IpAddress.ofV4Octets? record.octets
  | .v6 => IpAddress.ofV6Octets? record.octets
  | .other _ => none

/-- The record as it comes back from the wire. -/
def canonical (record : IpRecord) : IpRecord := { record with family := record.family.canonical }

/-- The number of bytes of a record on the wire. -/
def encodedLength (record : IpRecord) : Nat := 2 + record.octets.length

/-- A record on the wire. -/
def encode (record : IpRecord) : Bytes :=
  record.family.toByte :: UInt8.ofNat record.octets.length :: record.octets

/-- Reads an address record. -/
def reader : Reader IpRecord := do
  let family ← Reader.u8 .ipType
  let length ← Reader.u8 .ipLength
  let octets ← Reader.take .ipAddress length.toNat
  return ⟨.ofByte family, octets.val, by
    have := length.toNat_lt
    simp only [octets.property, maxFieldLength]
    omega⟩

theorem length_encode (record : IpRecord) : record.encode.length = record.encodedLength := by
  simp [encode, encodedLength]
  omega

end IpRecord

/-! ## Contacts -/

/-- The identity of a station. -/
structure Contact where
  kind : StationKind
  callsign : Bytes
  ips : List IpRecord
  callsign_le : callsign.length ≤ maxFieldLength
  ips_le : ips.length ≤ maxFieldLength
  deriving DecidableEq, Repr

namespace Contact

/-- A contact without addresses. -/
def make (kind : StationKind) (callsign : Bytes) : Except WireError Contact :=
  if short : callsign.length ≤ maxFieldLength then
    .ok ⟨kind, callsign, [], short, Nat.zero_le _⟩
  else .error (.tooLong .callsign callsign.length maxFieldLength)

/-- Adds one more address record at the end. -/
def withIp (contact : Contact) (record : IpRecord) : Except WireError Contact :=
  if room : (contact.ips ++ [record]).length ≤ maxFieldLength then
    .ok { contact with ips := contact.ips ++ [record], ips_le := room }
  else .error (.tooLong .ipList (contact.ips.length + 1) maxFieldLength)

/-- Adds address records one after the other. -/
def withIps (contact : Contact) (records : List IpRecord) : Except WireError Contact :=
  records.foldlM withIp contact

/-- The callsign for display, for logs and as it stands in paths. -/
def callsignText (contact : Contact) : String := Text.ofBytes contact.callsign

/-- The contact as it comes back from the wire. -/
def canonical (contact : Contact) : Contact where
  kind := contact.kind.canonical
  callsign := contact.callsign
  ips := contact.ips.map IpRecord.canonical
  callsign_le := contact.callsign_le
  ips_le := by simpa using contact.ips_le

/-- The number of bytes of a contact on the wire. -/
def encodedLength (contact : Contact) : Nat :=
  3 + contact.callsign.length
    + contact.ips.foldr (fun record length => record.encodedLength + length) 0

/-- A contact on the wire. -/
def encode (contact : Contact) : Bytes :=
  contact.kind.toByte :: UInt8.ofNat contact.callsign.length ::
    (contact.callsign ++ UInt8.ofNat contact.ips.length :: contact.ips.flatMap IpRecord.encode)

/-- Reads a contact. -/
def reader : Reader Contact := do
  let kind ← Reader.u8 .contactType
  let length ← Reader.u8 .callsignLength
  let callsign ← Reader.take .callsign length.toNat
  let count ← Reader.u8 .ipCount
  let ips ← IpRecord.reader.times count.toNat
  return {
    kind := .ofByte kind
    callsign := callsign.val
    ips := ips.val
    callsign_le := by
      have := length.toNat_lt
      simp only [callsign.property, maxFieldLength]
      omega
    ips_le := by
      have := count.toNat_lt
      simp only [ips.property, maxFieldLength]
      omega }

/-- The contact at the front of a byte string. -/
def decode (bytes : Bytes) : Except WireError Contact := reader.run bytes

theorem length_encode (contact : Contact) : contact.encode.length = contact.encodedLength := by
  have ips : ∀ records : List IpRecord,
      (records.flatMap IpRecord.encode).length =
        records.foldr (fun record length => record.encodedLength + length) 0 := by
    intro records
    induction records with
    | nil => rfl
    | cons record records ih => simp [IpRecord.length_encode, ih]
  simp only [encode, encodedLength, List.length_cons, List.length_append, ips]
  omega

end Contact

end RadioGossip
