import RadioGossip.Node.Basic
import RadioGossip.Reconciliation.Update

/-!
# Reconciliation

Neighbours catch up on each other's caches by asking. When a peer connects, a station sends it a
**query** with the keys it holds, as many as fit one update. The peer **answers** with the messages
from its cache that the query does not name, in cache order up to the first that no longer fits,
and the station **merges** them without relaying them. What did not fit waits for the next time.

Updates travel as messages of the station itself without caching and without hop budget.
-/

namespace RadioGossip

/-- What a station counts of its reconciliations. Each query, answer, merged message and malformed
update adds one to a counter, so counters of 64 bits are enough for fewer than `2 ^ 64` of them. -/
structure ReconcileStats where
  queries : Nat := 0
  answers : Nat := 0
  merged : Nat := 0
  malformed : Nat := 0
  deriving DecidableEq, Repr

namespace Reconciliation

/-- The number of leading keys that fit behind `used` bytes of one update. -/
def fittingFrom (used : Nat) : List Key → Nat
  | [] => 0
  | key :: keys =>
    let used := used + CacheQuery.keyLength key
    if Update.maxDataLength < used then 0 else fittingFrom used keys + 1

/-- The number of leading keys whose query fits one update. -/
def fitting (keys : List Key) : Nat := fittingFrom countLength keys

/-- The leading messages that fit behind `used` bytes of one update. -/
def fittingMessages (used : Nat) : List Message → List Message
  | [] => []
  | message :: messages =>
    let used := used + message.encodedLength
    if Update.maxDataLength < used then [] else message :: fittingMessages used messages

/-- The cached messages that a query does not name, as many as fit one answer. -/
def answerTo (query : CacheQuery) (cached : List Message) : CacheAnswer :=
  let missing := cached.filter fun message => !query.keys.any message.hasKey
  ⟨fittingMessages countLength missing⟩

/-- A message of the node that carries an update. A number is drawn only once the update is
written. -/
def updateMessage (node : Node) (operation : UpdateOperation) (data : Except WireError Bytes) :
    Node × Except WireError Bytes :=
  match data >>= fun data => Update.encode ⟨operation, data⟩ with
  | .error cause => (node, .error cause)
  | .ok payload =>
    let (node, message) := node.newMessage .update payload 0
    (node, { message with flags := message.flags ||| Message.noCacheFlag }.encode)

/-- Sends a query to a peer that has just connected. -/
def peerConnected (stats : ReconcileStats) (node : Node) (peer : PeerId) :
    ReconcileStats × Node :=
  let keys := node.cached.map Message.key
  let query : CacheQuery := ⟨keys.take (fitting keys)⟩
  match updateMessage node .cacheRequest query.encode with
  | (node, .ok frame) => ({ stats with queries := stats.queries + 1 }, node.queue peer frame)
  | (node, .error _) => (stats, node)

/-- Answers the query of a peer. -/
def answer (stats : ReconcileStats) (node : Node) (peer : PeerId) (data : Bytes) :
    Except WireError (ReconcileStats × Node) := do
  let query ← CacheQuery.decode data
  let (node, built) := updateMessage node .cacheResponse (answerTo query node.cached).encode
  let frame ← built
  return ({ stats with answers := stats.answers + 1 }, node.queue peer frame)

/-- Takes messages into the cache one after the other and counts those that were taken. -/
def mergeAll (node : Node) : List Message → Node × Nat
  | [] => (node, 0)
  | message :: messages =>
    let (node, grown) := node.addToCache message
    let (node, others) := mergeAll node messages
    (node, grown.toNat + others)

/-- Merges the answer of a peer, all of it or, if any of it is malformed, nothing. -/
def merge (stats : ReconcileStats) (node : Node) (data : Bytes) :
    Except WireError (ReconcileStats × Node) := do
  let answer ← CacheAnswer.decode data
  let (node, grown) := mergeAll node answer.messages
  return ({ stats with merged := stats.merged + grown }, node)

/-- Reacts to an update. -/
def react (stats : ReconcileStats) (node : Node) (peer : PeerId) (payload : Bytes) :
    Except WireError (ReconcileStats × Node) := do
  let update ← Update.decode payload
  match update.operation with
  | .cacheRequest => answer stats node peer update.data
  | .cacheResponse => merge stats node update.data

/-- Takes note of one delivered message. Only an update that a peer sent is reacted to, and one
that is malformed is counted. -/
def observe (stats : ReconcileStats) (node : Node) (delivery : Delivery) : ReconcileStats × Node :=
  match delivery.message.kind, delivery.sender with
  | .update, some peer =>
    match react stats node peer delivery.message.payload with
    | .ok result => result
    | .error _ => ({ stats with malformed := stats.malformed + 1 }, node)
  | _, _ => (stats, node)

end Reconciliation

end RadioGossip
