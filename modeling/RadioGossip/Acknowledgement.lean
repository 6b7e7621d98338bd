import RadioGossip.Message.Basic

/-!
# Acknowledgements

A station that accepts a message whose sender asked for it answers the neighbour it came from with
a message of its own. Its payload names the message that arrived:

    contact · sequence (8)

The neighbour keeps a **tally** of the acknowledgements it was sent.
-/

namespace RadioGossip

/-- The payload of an acknowledgement: the source and the number of the message that arrived. -/
structure Ack where
  contact : Contact
  sequence : UInt64
  deriving DecidableEq, Repr

namespace Ack

/-- The acknowledgement of the message with a key. -/
def ofKey (key : Key) : Ack := ⟨key.source, key.sequence⟩

/-- The key of the message that is acknowledged. -/
def key (ack : Ack) : Key := ⟨ack.sequence, ack.contact⟩

/-- An acknowledgement on the wire. -/
def encode (ack : Ack) : Bytes := ack.contact.encode ++ Bytes.ofWord 8 ack.sequence.toNat

/-- Reads an acknowledgement. -/
def reader : Reader Ack := do
  let contact ← Contact.reader
  let sequence ← Reader.u64 .ackSequence
  return ⟨contact, sequence⟩

/-- The acknowledgement at the front of a byte string. -/
def decode (bytes : Bytes) : Except WireError Ack := reader.run bytes

theorem key_ofKey (key : Key) : (ofKey key).key = key := rfl

end Ack

/-- How many acknowledgements came in, and how many that could not be read. -/
structure AckTally where
  received : Nat := 0
  malformed : Nat := 0
  deriving DecidableEq, Repr

namespace AckTally

/-- Counts one delivered message. Only an acknowledgement that a neighbour sent counts. -/
def observe (tally : AckTally) (message : Message) (fromPeer : Bool) : AckTally :=
  if message.kind = .ack ∧ fromPeer = true then
    match Ack.decode message.payload with
    | .ok _ => { tally with received := tally.received + 1 }
    | .error _ => { tally with malformed := tally.malformed + 1 }
  else tally

end AckTally

end RadioGossip
