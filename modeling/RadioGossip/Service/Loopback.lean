import RadioGossip.Service.Basic

/-!
# Services among friends

To see a service at work without a network, its connections lead to **far ends** in the same
process. A far end has a name, writes to the service whatever it likes and collects the frames that
the service writes to it. The first outbound peers of the service find a far end whenever they dial;
the dials of the others come to nothing. Any far end may connect by itself, as if from this machine.
-/

namespace RadioGossip

/-- The other end of a connection, with the frames that arrived there and were not taken yet. -/
structure FarEnd where
  name : String
  connection : ConnectionId
  scanner : Frame.Scanner
  frames : List Bytes := []
  deriving DecidableEq, Repr

/-- A service whose connections lead to far ends. -/
structure Loopback where
  service : Service
  /-- How many of the outbound peers find a far end. -/
  reachable : Nat
  farEnds : List FarEnd := []
  deriving DecidableEq, Repr

namespace Loopback

/-- Where far ends connect from. -/
def here : Endpoint := ⟨.v4 127 0 0 1, 0⟩

/-- What a service writes arrives at the far end. -/
def arrive (id : ConnectionId) (wire : Bytes) (farEnd : FarEnd) : FarEnd :=
  if farEnd.connection = id then
    let (scanner, frames) := farEnd.scanner.drain wire
    { farEnd with scanner, frames := farEnd.frames ++ frames }
  else farEnd

/-- Carries out one effect. Far ends notice nothing of being hung up on until they read. -/
def carryOut (loopback : Loopback) : Effect → Loopback
  | .write id wire => { loopback with farEnds := loopback.farEnds.map (arrive id wire) }
  | .hangUp _ => loopback

/-- The service has done something. -/
def update (loopback : Loopback) (service : Service) (effects : List Effect) : Loopback :=
  effects.foldl carryOut { loopback with service }

/-- A far end takes a connection, under a name that it may have had before. -/
def join (loopback : Loopback) (name : String) (id : ConnectionId) : Loopback :=
  let scanner := Frame.Scanner.new Frame.defaultBound
  if loopback.farEnds.any fun farEnd => farEnd.name = name then
    { loopback with
      farEnds := loopback.farEnds.map fun farEnd =>
        if farEnd.name = name then { farEnd with connection := id, scanner } else farEnd }
  else { loopback with farEnds := loopback.farEnds ++ [{ name, connection := id, scanner }] }

/-- One dial succeeds or comes to nothing. -/
def dial (loopback : Loopback) (peer : PeerId) : Loopback :=
  if peer.number ≤ loopback.reachable then
    let (service, id, effects) := loopback.service.dialled peer
    (loopback.join s!"p{peer.number - 1}" id).update service effects
  else loopback.update (loopback.service.dialFailed peer) []

/-- Every peer that wants to be dialled is. -/
def dialAll (loopback : Loopback) : Loopback :=
  let (service, dials) := loopback.service.beginDials
  dials.foldl (fun loopback (peer, _) => loopback.dial peer) { loopback with service }

/-- Starts a service and dials its peers. -/
def start (service : Service) (reachable : Nat) : Loopback :=
  dialAll { service := (service.start (.ok ())).1, reachable }

/-- The far end with this name. -/
def farEnd? (loopback : Loopback) (name : String) : Option FarEnd :=
  loopback.farEnds.find? fun farEnd => farEnd.name = name

/-- A far end connects: the peer that it belongs to, and whether it was hung up on at once. -/
def accept (loopback : Loopback) (name : String) : Loopback × PeerId × Bool :=
  let (service, id, peer, effects) := loopback.service.accepted here
  if effects.contains (.hangUp id) then (loopback.update service effects, peer, true)
  else ((loopback.join name id).update service effects, peer, false)

/-- A far end writes. -/
def write (loopback : Loopback) (farEnd : FarEnd) (bytes : Bytes) : Loopback :=
  let (service, effects) := loopback.service.received farEnd.connection bytes
  loopback.update service effects

/-- A far end hangs up. -/
def hangUp (loopback : Loopback) (farEnd : FarEnd) : Loopback :=
  let (service, effects) := loopback.service.lost farEnd.connection
  loopback.update service effects

/-- Takes the frames that arrived at one far end. -/
def take (loopback : Loopback) (name : String) : Loopback :=
  { loopback with
    farEnds := loopback.farEnds.map fun farEnd =>
      if farEnd.name = name then { farEnd with frames := [] } else farEnd }

/-- Takes the frames that arrived at every far end. -/
def takeAll (loopback : Loopback) : Loopback :=
  { loopback with farEnds := loopback.farEnds.map fun farEnd => { farEnd with frames := [] } }

end Loopback

end RadioGossip
