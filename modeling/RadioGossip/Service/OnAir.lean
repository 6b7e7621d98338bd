import RadioGossip.Link.Dialling
import RadioGossip.Service.Basic
import Std.Async.DNS
import Std.Async.TCP
import Std.Async.Timer
import Std.Sync.CancellationToken
import Std.Sync.Channel

/-!
# Services on sockets

A service decides what to do and owns no sockets; here are the sockets. All that happens to a
service goes through one channel, so that the service hears of one thing after the other. Every
connection has a task that reads from its socket and one that writes to it, until either fails or
the connection is hung up. Nothing is decided here.
-/

namespace RadioGossip

namespace OnAir

open Std Async

/-- What happens to a service. -/
inductive Happening where
  /-- It is time to dial the peers without a connection. -/
  | dialTime
  | accepted (socket : TCP.Socket.Client)
  | dialled (peer : PeerId) (socket : TCP.Socket.Client)
  | dialFailed (peer : PeerId)
  | received (connection : ConnectionId) (bytes : Bytes)
  | lost (connection : ConnectionId)
  /-- The operator wants it to stop. -/
  | interrupted

instance : Inhabited Happening := ⟨.dialTime⟩

/-- A channel that tells a service what happens. -/
abbrev Happenings := Channel Happening

/-- A time in seconds. Timers count a hundred years at most. -/
def seconds (count : Nat) : Time.Millisecond.Offset := .ofNat (min count 3153600000 * 1000)

/-- The service hears of this next. -/
def tell (happenings : Happenings) (happening : Happening) : Async Unit := do
  discard (happenings.send happening)

/-- A connection that is open: what is to be written, and whether it was hung up. -/
structure Line where
  connection : ConnectionId
  outgoing : Channel Bytes
  hungUp : CancellationToken

/-! ## Addresses -/

/-- An address and a port as sockets take them. -/
def socketAddress (port : UInt16) : Net.IPAddr → Net.SocketAddress
  | .v4 address => .v4 ⟨address, port⟩
  | .v6 address => .v6 ⟨address, port⟩

/-- The other end of a socket. -/
def endpoint : Net.SocketAddress → Endpoint
  | .v4 ⟨⟨octets⟩, port⟩ => ⟨.v4 octets[0] octets[1] octets[2] octets[3], port⟩
  | .v6 ⟨⟨groups⟩, port⟩ =>
    ⟨.v6 groups[0] groups[1] groups[2] groups[3] groups[4] groups[5] groups[6] groups[7], port⟩

/-- The addresses that a host stands for. -/
def lookUp (host : String) : Async (List Net.IPAddr) := do
  return (← DNS.getAddrInfo host "").toList

/-! ## Listening and dialling -/

/-- Listens on the first address that a host stands for. -/
def listen (address : PeerAddress) : IO TCP.Socket.Server := do
  match ← (lookUp address.host).block with
  | [] => throw (IO.userError "no address")
  | ip :: _ =>
    let server ← TCP.Socket.Server.mk
    server.bind (socketAddress address.port ip)
    server.listen 1024
    return server

/-- Connects to the first of some addresses that answers. -/
def connectAny (port : UInt16) : List Net.IPAddr → Async (Option TCP.Socket.Client)
  | [] => return none
  | ip :: others => do
    try
      let socket ← TCP.Socket.Client.mk
      socket.connect (socketAddress port ip)
      return some socket
    catch _ => connectAny port others

/-- Dials a peer, for as long as the settings allow. -/
def dial (settings : LinkSettings) (address : PeerAddress) : Async (Option TCP.Socket.Client) := do
  match address.checkHost with
  | .error _ => return none
  | .ok () =>
    Async.race (do connectAny address.port (← lookUp address.host))
      (do sleep (seconds settings.dialTimeout); return none)

/-- Dials a peer and tells what came of it. -/
def dialAndTell (happenings : Happenings) (settings : LinkSettings) (peer : PeerId)
    (address : PeerAddress) : Async Unit := do
  match ← try dial settings address catch _ => pure none with
  | some socket => tell happenings (.dialled peer socket)
  | none => tell happenings (.dialFailed peer)

/-! ## Tasks -/

/-- Accepts streams for ever. -/
def acceptStreams (happenings : Happenings) (server : TCP.Socket.Server) : Async Unit := do
  repeat
    try tell happenings (.accepted (← server.accept))
    catch _ => sleep 100

/-- Calls for dials again and again. -/
def callForDials (happenings : Happenings) (interval : Nat) : Async Unit := do
  repeat
    tell happenings .dialTime
    sleep (seconds interval)

/-- Reads from a socket until it is hung up or ends. -/
def readFrom (happenings : Happenings) (line : Line) (socket : TCP.Socket.Client) :
    Async Unit := do
  try
    repeat
      let read ← Selectable.one #[
        .case (socket.recvSelector 65536) fun bytes => return bytes,
        .case line.hungUp.selector fun _ => return none]
      match read with
      | some bytes => tell happenings (.received line.connection bytes.toList)
      | none => break
  catch _ => pure ()
  tell happenings (.lost line.connection)

/-- Writes to a socket until it is hung up or a write fails. -/
def writeTo (happenings : Happenings) (line : Line) (socket : TCP.Socket.Client) :
    Async Unit := do
  try
    repeat
      let wire ← Selectable.one #[
        .case line.outgoing.recvSelector fun wire => return some wire,
        .case line.hungUp.selector fun _ => return none]
      match wire with
      | some wire => socket.send ⟨wire.toArray⟩
      | none => break
    socket.shutdown
  catch _ => tell happenings (.lost line.connection)

/-! ## The service -/

/-- A service with its sockets. -/
structure Running where
  happenings : Happenings
  service : Service
  lines : List Line := []

namespace Running

/-- The line of a connection. -/
def line? (running : Running) (connection : ConnectionId) : Option Line :=
  running.lines.find? fun line => line.connection = connection

/-- Hangs up a connection. -/
def hangUp (running : Running) (connection : ConnectionId) : Async Running := do
  if let some line := running.line? connection then line.hungUp.cancel
  return { running with
    lines := running.lines.filter fun line => line.connection ≠ connection }

/-- Carries out one effect. -/
def carryOut (running : Running) : Effect → Async Running
  | .write connection wire => do
    if let some line := running.line? connection then discard (line.outgoing.send wire)
    return running
  | .hangUp connection => running.hangUp connection

/-- The service has done something. -/
def update (running : Running) (service : Service) (effects : List Effect) : Async Running :=
  effects.foldlM carryOut { running with service }

/-- Opens a line on a socket. -/
def openLine (running : Running) (connection : ConnectionId) (socket : TCP.Socket.Client) :
    Async Running := do
  if running.service.node.settings.link.nodelay then
    try socket.noDelay catch _ => pure ()
  let line : Line := {
    connection
    outgoing := ← Channel.new
    hungUp := ← CancellationToken.new }
  background (readFrom running.happenings line socket)
  background (writeTo running.happenings line socket)
  return { running with lines := line :: running.lines }

/-- Tells the service of one happening and does what it wants done. -/
def handle (running : Running) : Happening → Async Running
  | .dialTime => do
    let (service, dials) := running.service.beginDials
    for (peer, address) in dials do
      background (dialAndTell running.happenings service.node.settings.link peer address)
    return { running with service }
  | .accepted socket => do
    match ← try some <$> socket.getPeerName catch _ => pure none with
    | some remote =>
      let (service, connection, _, effects) := running.service.accepted (endpoint remote)
      (← running.openLine connection socket).update service effects
    | none => return running
  | .dialled peer socket => do
    let (service, connection, effects) := running.service.dialled peer
    (← running.openLine connection socket).update service effects
  | .dialFailed peer => return { running with service := running.service.dialFailed peer }
  | .received connection bytes =>
    let (service, effects) := running.service.received connection bytes
    running.update service effects
  | .lost connection => do
    let (service, effects) := running.service.lost connection
    (← running.update service effects).hangUp connection
  | .interrupted =>
    let (service, effects) := running.service.shutdown
    running.update service effects

/-- Handles what happens, one after the other, until the service is stopped. -/
def untilStopped (start : Running) : Async Service := do
  let mut running := start
  while !running.service.stopped do
    running ← running.handle (← await (← running.happenings.recv))
  return running.service

end Running

/-- Runs a service that was started, and returns it when it was stopped. -/
def run (happenings : Happenings) (service : Service) (server : TCP.Socket.Server) :
    Async Service := do
  background (acceptStreams happenings server)
  background (callForDials happenings service.node.settings.reconnectInterval)
  ({ happenings, service } : Running).untilStopped

end OnAir

end RadioGossip
