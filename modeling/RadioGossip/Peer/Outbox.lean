import RadioGossip.Bytes

/-!
# Outboxes

The frames that wait for a neighbour stand in an **outbox**, the oldest first. It is bounded: a new
frame pushes out the oldest ones. Each frame has a number of its own, so that a frame that was
pushed out while it was being sent is not confused with the one that took its place.

Sending takes the first frame without removing it. It is removed when it was sent or turned out to
be too large, and it stays for another try otherwise.
-/

namespace RadioGossip

/-- A frame that waits, with its number. -/
structure QueuedFrame where
  /-- Frames are numbered from zero on as they are queued. A number of 64 bits is enough for the
  first `2 ^ 64` of them. -/
  number : Nat
  data : Bytes
  deriving DecidableEq, Repr

/-- The frames that wait for one neighbour, the oldest first. -/
structure Outbox where
  capacity : Nat
  frames : List QueuedFrame := []
  nextNumber : Nat := 0
  /-- The frame that is being sent. -/
  inFlight : Option QueuedFrame := none
  deriving DecidableEq, Repr

namespace Outbox

/-- An outbox in which nothing waits. -/
def empty (capacity : Nat) : Outbox := { capacity }

/-- The number of frames that wait. -/
def size (outbox : Outbox) : Nat := outbox.frames.length

/-- What the frames that wait hold, the oldest first. -/
def contents (outbox : Outbox) : List Bytes := outbox.frames.map QueuedFrame.data

/-- Appends a frame. As many of the oldest frames go as make room for it. -/
def push (outbox : Outbox) (data : Bytes) : Outbox :=
  let surplus := outbox.size + 1 - outbox.capacity
  { outbox with
    frames := outbox.frames.drop surplus ++ [⟨outbox.nextNumber, data⟩]
    nextNumber := outbox.nextNumber + 1 }

/-- Takes up the first frame, unless one is being sent already. -/
def begin? (outbox : Outbox) : Option (Outbox × QueuedFrame) :=
  match outbox.inFlight, outbox.frames with
  | none, frame :: _ => some ({ outbox with inFlight := some frame }, frame)
  | _, _ => none

/-- Removes the first frame if it has this number. -/
def popHead (outbox : Outbox) (number : Nat) : Outbox :=
  match outbox.frames with
  | frame :: frames => if frame.number = number then { outbox with frames } else outbox
  | [] => outbox

/-- The frame being sent is done with. -/
def complete (outbox : Outbox) : Outbox :=
  match outbox.inFlight with
  | some frame => { outbox.popHead frame.number with inFlight := none }
  | none => outbox

/-- The frame being sent was not sent. -/
def giveUp (outbox : Outbox) : Outbox := { outbox with inFlight := none }

/-- Takes every frame that waits. -/
def takeAll (outbox : Outbox) : Outbox × List Bytes :=
  ({ outbox with frames := [] }, outbox.contents)

end Outbox

end RadioGossip
