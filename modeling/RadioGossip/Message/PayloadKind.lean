/-!
# Kinds of payloads

What a payload means to the application travels as one tag byte, and a tag without a name is kept
as it is.
-/

namespace RadioGossip

/-- What the payload of a message means. -/
inductive PayloadKind where
  | cq
  | debug
  /-- Reconciliation traffic between neighbours. -/
  | update
  /-- An acknowledgement. -/
  | ack
  | messengerCq
  | messengerGroup
  | messengerBroadcast
  | messengerEmergency
  /-- A kind known by its tag alone. -/
  | other (tag : UInt8)
  deriving DecidableEq, Repr

namespace PayloadKind

/-- The tag of a kind on the wire. -/
def toByte : PayloadKind → UInt8
  | cq => 0
  | debug => 1
  | update => 2
  | ack => 3
  | messengerCq => 4
  | messengerGroup => 5
  | messengerBroadcast => 6
  | messengerEmergency => 7
  | other tag => tag

/-- The kind that a tag names. -/
def ofByte (tag : UInt8) : PayloadKind :=
  match tag.toNat with
  | 0 => cq
  | 1 => debug
  | 2 => update
  | 3 => ack
  | 4 => messengerCq
  | 5 => messengerGroup
  | 6 => messengerBroadcast
  | 7 => messengerEmergency
  | _ => other tag

/-- The kind as it comes back from the wire. -/
def canonical (kind : PayloadKind) : PayloadKind := ofByte kind.toByte

/-- The kind in words. -/
def name : PayloadKind → String
  | cq => "Cq"
  | debug => "Debug"
  | update => "Update"
  | ack => "Ack"
  | messengerCq => "MessengerCq"
  | messengerGroup => "MessengerGroup"
  | messengerBroadcast => "MessengerBroadcast"
  | messengerEmergency => "MessengerEmergency"
  | other tag => s!"Other({tag})"

theorem toByte_ofByte (tag : UInt8) : (ofByte tag).toByte = tag := by
  unfold ofByte
  split <;> first
    | rfl
    | (apply UInt8.toNat_inj.mp; simp_all [toByte])

end PayloadKind

end RadioGossip
