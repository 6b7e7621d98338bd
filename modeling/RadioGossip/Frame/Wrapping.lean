import RadioGossip.Bytes
import RadioGossip.Link.Error

/-!
# Frames

A payload travels on a stream as a **frame**: a start marker, the payload, an end marker. The three
reserved bytes — both markers and the escape — may stand in a payload too, and each of them then
has an escape before it. A bound limits the size of a frame with everything that wrapping adds.
-/

namespace RadioGossip

namespace Frame

/-- Says that the next byte is payload, whatever it is. -/
def escape : UInt8 := 0xEB

/-- Opens a frame. -/
def startMarker : UInt8 := 0xAA

/-- Closes a frame. -/
def endMarker : UInt8 := 0xAB

/-- The bound on a frame when nothing else is said. -/
def defaultBound : Nat := 262144

/-- Whether a payload byte needs an escape. -/
def isReserved (byte : UInt8) : Bool := byte == escape || byte == startMarker || byte == endMarker

/-- A payload byte as it stands in a frame. -/
def escapeByte (byte : UInt8) : Bytes := if isReserved byte then [escape, byte] else [byte]

/-- The frame of a payload. -/
def wrap (payload : Bytes) : Bytes := startMarker :: payload.flatMap escapeByte ++ [endMarker]

/-- The size of the frame of a payload. -/
def wrappedLength (payload : Bytes) : Nat := 2 + payload.length + payload.countP isReserved

/-- The frame of a payload, unless it exceeds the bound. -/
def encode (bound : Nat) (payload : Bytes) : Except LinkError Bytes :=
  let size := wrappedLength payload
  if bound < size then .error (.frameTooLarge size bound) else .ok (wrap payload)

theorem length_wrap (payload : Bytes) : (wrap payload).length = wrappedLength payload := by
  have body : (payload.flatMap escapeByte).length = payload.length + payload.countP isReserved := by
    induction payload with
    | nil => rfl
    | cons byte payload ih =>
      simp only [List.flatMap_cons, List.length_append, ih, List.length_cons, List.countP_cons]
      unfold escapeByte
      split <;> simp_all <;> omega
  simp only [wrap, wrappedLength, List.length_append, List.length_cons, List.length_nil, body]
  omega

end Frame

end RadioGossip
