import RadioGossip.Frame.Scanner
import RadioGossip.Link.Settings

/-!
# Framed streams

A **stream** joins two ends. What one end sends arrives at the other in order, as frames. Frames
that have arrived wait for their owner in a buffer of limited size; when it is full the others stay
on the stream until there is room again.

Either end can close the stream. The one that closes hears nothing more than what it has buffered.
The other end still gets everything that was sent before, and is closed once it has got there.
-/

namespace RadioGossip

/-- One end of a stream. -/
structure StreamEnd where
  scanner : Frame.Scanner
  capacity : Nat
  /-- Frames that have arrived but have no room yet. -/
  arriving : List Bytes := []
  /-- Frames that wait for the owner. -/
  buffered : List Bytes := []
  /-- Whether the other end has sent its last byte. -/
  ended : Bool := false
  closed : Bool := false
  deriving DecidableEq, Repr

namespace StreamEnd

/-- An end at which nothing has arrived yet. -/
def new (settings : LinkSettings) : StreamEnd :=
  { scanner := .new settings.maxFrameSize, capacity := settings.receiveBuffer }

/-- Moves frames into the buffer as far as there is room. An end that has got to the end of the
stream is closed. -/
def settle (here : StreamEnd) : StreamEnd :=
  if here.closed then here
  else
    let room := here.capacity - here.buffered.length
    { here with
      buffered := here.buffered ++ here.arriving.take room
      arriving := here.arriving.drop room
      closed := here.ended && (here.arriving.drop room).isEmpty }

/-- Bytes arrive. -/
def arrive (here : StreamEnd) (bytes : Bytes) : StreamEnd :=
  if here.closed then here
  else
    let (scanner, frames) := here.scanner.drain bytes
    { here with scanner, arriving := here.arriving ++ frames }.settle

/-- The other end has sent its last byte. -/
def finish (here : StreamEnd) : StreamEnd := { here with ended := true }.settle

/-- Takes the next frame out of the buffer, if there is one. -/
def receive (here : StreamEnd) : StreamEnd × Option Bytes :=
  match here.buffered with
  | [] => (here, none)
  | frame :: frames => ({ here with buffered := frames }.settle, some frame)

/-- The owner closes its end. What has no room yet is lost. -/
def close (here : StreamEnd) : StreamEnd := { here with arriving := [], closed := true }

end StreamEnd

/-- The two sides of a stream. -/
inductive Side where
  /-- The side that dialled. -/
  | dialler
  /-- The side that accepted. -/
  | acceptor
  deriving DecidableEq, Repr

/-- The other side. -/
def Side.other : Side → Side
  | dialler => acceptor
  | acceptor => dialler

/-- A stream with its two ends. -/
structure Stream where
  settings : LinkSettings
  dialler : StreamEnd
  acceptor : StreamEnd
  deriving DecidableEq, Repr

namespace Stream

/-- A fresh stream. -/
def new (settings : LinkSettings) : Stream := ⟨settings, .new settings, .new settings⟩

/-- The end on one side. -/
def on (stream : Stream) : Side → StreamEnd
  | .dialler => stream.dialler
  | .acceptor => stream.acceptor

/-- Changes the end on one side. -/
def change (stream : Stream) (side : Side) (f : StreamEnd → StreamEnd) : Stream :=
  match side with
  | .dialler => { stream with dialler := f stream.dialler }
  | .acceptor => { stream with acceptor := f stream.acceptor }

/-- Sends a payload from one side. -/
def send (stream : Stream) (side : Side) (payload : Bytes) : Stream × Except LinkError Unit :=
  if (stream.on side).closed then (stream, .error .closed)
  else
    match Frame.encode stream.settings.maxFrameSize payload with
    | .error cause => (stream, .error cause)
    | .ok wire => (stream.change side.other (·.arrive wire), .ok ())

/-- Takes the next frame that has arrived on one side. -/
def receive (stream : Stream) (side : Side) : Stream × Option Bytes :=
  let (here, frame) := (stream.on side).receive
  (stream.change side fun _ => here, frame)

/-- Closes the stream from one side. -/
def close (stream : Stream) (side : Side) : Stream :=
  if (stream.on side).closed then stream
  else (stream.change side StreamEnd.close).change side.other StreamEnd.finish

/-- Whether the stream is closed as far as one side has noticed. -/
def isClosed (stream : Stream) (side : Side) : Bool := (stream.on side).closed

end Stream

end RadioGossip
