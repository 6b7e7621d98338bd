import RadioGossip.Frame.Wrapping

/-!
# Settings of links

What all links of a station have in common: how long a dial may take, how large a frame may be, how
many frames wait on either side, and whether small writes go out at once.
-/

namespace RadioGossip

/-- The settings of the links of a station. -/
structure LinkSettings where
  /-- Seconds after which a dial is given up. -/
  dialTimeout : Nat := 10
  /-- The bound on a frame. -/
  maxFrameSize : Nat := Frame.defaultBound
  /-- Frames that may wait to be written. -/
  sendBuffer : Nat := 16
  /-- Frames that may wait to be taken. -/
  receiveBuffer : Nat := 64
  /-- Whether small writes go out at once. -/
  nodelay : Bool := true
  deriving DecidableEq, Repr

namespace LinkSettings

/-- The smallest bound on a frame that makes sense. -/
def minFrameSize : Nat := 16

/-- Refuses a bound that is too small and buffers that hold nothing. -/
def validate (settings : LinkSettings) : Except LinkError Unit :=
  if settings.maxFrameSize < minFrameSize then
    .error (.invalidSettings s!"max_frame_size must be at least {minFrameSize}")
  else if settings.sendBuffer = 0 ∨ settings.receiveBuffer = 0 then
    .error (.invalidSettings "channel buffers cannot be 0")
  else .ok ()

/-- The settings as a JSON object on one line. -/
def json (settings : LinkSettings) : String :=
  let members := [
    s!"\"connection_timeout_secs\":{settings.dialTimeout}",
    s!"\"max_frame_size\":{settings.maxFrameSize}",
    s!"\"send_buffer\":{settings.sendBuffer}",
    s!"\"receive_buffer\":{settings.receiveBuffer}",
    s!"\"nodelay\":{settings.nodelay}"]
  "\x7b" ++ ",".intercalate members ++ "\x7d"

end LinkSettings

end RadioGossip
