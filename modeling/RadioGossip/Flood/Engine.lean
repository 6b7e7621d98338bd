import RadioGossip.Acknowledgement
import RadioGossip.Flood.Cache

/-!
# Flooding

The **engine** of a station decides what becomes of a message. It owns the cache and no links: what
it decides comes out as a list of events that someone else carries out.

* A message whose path names this station already is dropped: it came round in a **loop**.
* A message without caching is delivered here and goes no further.
* A message whose key is in the cache is dropped: it is a **duplicate**.
* Any other message is **accepted**. It makes a hop through this station, goes into the cache, is
  delivered, and is relayed as long as its hop budget lasts. If its sender asked for it, an
  acknowledgement goes back to where it came from.
-/

namespace RadioGossip

/-- What the engine wants done. -/
inductive Event where
  /-- Hand a message to the station itself. -/
  | deliver (message : Message)
  /-- Send a message, as it stands on the wire, to every neighbour. -/
  | relay (wire : Bytes)
  /-- Send a message, as it stands on the wire, back to where the input came from. -/
  | reply (wire : Bytes)
  deriving DecidableEq, Repr

/-- Why a station refuses to spread a message of its own. -/
inductive SpreadError where
  /-- The station only listens. -/
  | readOnly
  /-- The message cannot be written after its hop. -/
  | unwritable (cause : WireError)
  deriving DecidableEq, Repr

/-- The refusal in words. -/
def SpreadError.message : SpreadError → String
  | readOnly => "Node is read-only"
  | unwritable cause => s!"Protocol error: {cause.message}"

/-- What the engine counts. A call adds one to a counter at most, so counters of 64 bits are enough
for fewer than `2 ^ 64` calls. -/
structure FloodStats where
  processed : Nat := 0
  relayed : Nat := 0
  duplicates : Nat := 0
  loops : Nat := 0
  malformed : Nat := 0
  acks : Nat := 0
  inserts : Nat := 0
  deriving DecidableEq, Repr

/-- The part of a station that decides about messages. -/
structure Engine where
  /-- The station itself. -/
  self : Contact
  readOnly : Bool
  cache : Cache
  stats : FloodStats := {}
  deriving DecidableEq, Repr

namespace Engine

/-- An engine that has seen nothing yet. -/
def new (self : Contact) (cacheSize : Nat) (readOnly : Bool) : Engine :=
  { self, readOnly, cache := .empty cacheSize }

/-- The callsign of the station as it stands in paths. -/
def callsign (engine : Engine) : String := engine.self.callsignText

/-- Puts a message into the cache and says whether it was taken. -/
def insert (engine : Engine) (message : Message) : Engine × Bool :=
  match engine.cache.insert message with
  | (cache, true) =>
    ({ engine with cache, stats.inserts := engine.stats.inserts + 1 }, true)
  | (cache, false) => ({ engine with cache }, false)

/-- The message that tells a neighbour that its message arrived. -/
def acknowledgement (engine : Engine) (message : Message) : Message where
  version := Message.currentVersion
  sequence := 0
  ttl := 0
  flags := Message.noCacheFlag
  source := engine.self
  path := ⟨engine.callsign⟩
  kind := .ack
  payload := (Ack.ofKey message.key).encode

/-- Floods a message that starts here. When it is refused nothing changes. -/
def spread (engine : Engine) (message : Message) : Engine × Except SpreadError (List Event) :=
  if engine.readOnly then (engine, .error .readOnly)
  else if message.isNoCache then (engine, .ok [.deliver message])
  else if engine.cache.contains message.key then
    ({ engine with stats.duplicates := engine.stats.duplicates + 1 }, .ok [])
  else if message.path.contains engine.callsign then
    ({ engine with stats.loops := engine.stats.loops + 1 }, .ok [])
  else
    let hopped := message.hop engine.callsign
    if hopped.ttl = 0 then ((engine.insert hopped).1, .ok [.deliver hopped])
    else
      match hopped.encode with
      | .error cause => (engine, .error (.unwritable cause))
      | .ok wire =>
        let engine := (engine.insert hopped).1
        ({ engine with stats.relayed := engine.stats.relayed + 1 },
          .ok [.deliver hopped, .relay wire])

/-- The wire form of a message whose hop budget is not spent, if it has one. -/
def relayOf (message : Message) : Option Bytes :=
  if message.ttl = 0 then none else message.encode.toOption

/-- The wire form of the acknowledgement that the sender of a message asked for, if it did. -/
def replyTo (engine : Engine) (message : Message) : Option Bytes :=
  if message.isAckRequested then (engine.acknowledgement message).encode.toOption else none

/-- Takes in a message that came from a neighbour. A relay or a reply that cannot be written is
left out. -/
def accept (engine : Engine) (message : Message) : Engine × List Event :=
  let reply := engine.replyTo message
  let hopped := message.hop engine.callsign
  let relay := relayOf hopped
  let engine := (engine.insert hopped).1
  let stats := { engine.stats with
    relayed := engine.stats.relayed + relay.toList.length
    acks := engine.stats.acks + reply.toList.length }
  ({ engine with stats },
    .deliver hopped :: (relay.toList.map .relay ++ reply.toList.map .reply))

/-- Processes a frame that came from a neighbour. Only a frame that is no message is refused. -/
def handle (engine : Engine) (raw : Bytes) : Engine × Except WireError (List Event) :=
  let engine := { engine with stats.processed := engine.stats.processed + 1 }
  match Message.decode raw with
  | .error cause =>
    ({ engine with stats.malformed := engine.stats.malformed + 1 }, .error cause)
  | .ok message =>
    if message.path.contains engine.callsign then
      ({ engine with stats.loops := engine.stats.loops + 1 }, .ok [])
    else if message.isNoCache then (engine, .ok [.deliver message])
    else if engine.cache.contains message.key then
      ({ engine with stats.duplicates := engine.stats.duplicates + 1 }, .ok [])
    else
      let (engine, events) := engine.accept message
      (engine, .ok events)

/-- Takes a message into the cache that was learned some other way, without delivering or relaying
it, and says whether the cache took it. -/
def addToCache (engine : Engine) (message : Message) : Engine × Bool :=
  if message.isNoCache then (engine, false)
  else if message.path.contains engine.callsign then engine.insert message
  else engine.insert (message.hop engine.callsign)

end Engine

end RadioGossip
