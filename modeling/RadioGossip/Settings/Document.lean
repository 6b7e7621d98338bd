import RadioGossip.Json.Parsing
import RadioGossip.Json.Printing
import RadioGossip.Settings.Basic

/-!
# Settings documents

Settings are kept as a JSON document: an object with the members `node` and `station`, in which
everything but the callsign may be left out. Reading follows these rules.

* A member may go by an older name. A member that comes twice, be it under two names, is refused.
* Members that nobody knows are skipped, whatever they hold.
* Instead of an object, an array may list the values in the order of the members. Values left out at
  its end are taken as members left out; too many are refused.
* Numbers must be natural numbers within their range.

Writing gives every member its name and leaves none out.
-/

namespace RadioGossip

namespace Settings

open Json

/-! ## Sections -/

/-- The position of the first list of names that has this name. -/
def position? (name : String) : List (List String) → Option Nat
  | [] => none
  | names :: others => if names.contains name then some 0 else (position? name others).map (· + 1)

/-- Puts the value of one member in its place. -/
def place (fields : List (List String)) (values : List (Option Value)) :
    Option String × Value → Option (List (Option Value))
  | (none, _) => none
  | (some name, value) =>
    match position? name fields with
    | none => some values
    | some index =>
      match values[index]? with
      | some none => some (values.set index (some value))
      | _ => none

/-- The values of a section in the order of its fields, each of which has a list of names. -/
def sectionValues (fields : List (List String)) : Value → Option (List (Option Value))
  | .object members => members.foldlM (place fields) (fields.map fun _ => none)
  | .array items =>
    if items.length ≤ fields.length then
      some (items.map some ++ List.replicate (fields.length - items.length) none)
    else none
  | _ => none

/-- What a value means, or what a value that was left out stands for. -/
def orDefault {α : Type} (standard : α) (read : Value → Option α) : Option Value → Option α
  | none => some standard
  | some value => read value

/-! ## Reading values -/

/-- A text. -/
def textOf? : Value → Option String
  | .string text => text
  | _ => none

/-- A truth value. -/
def boolOf? : Value → Option Bool
  | .bool value => some value
  | _ => none

/-- A natural number below a bound. -/
def naturalBelow? (bound : Nat) : Value → Option Nat
  | .natural value => if value < bound then some value else none
  | _ => none

/-- A number of one byte. -/
def u8Of? (value : Value) : Option UInt8 := (naturalBelow? 0x100 value).map .ofNat

/-- A number of two bytes. -/
def u16Of? (value : Value) : Option UInt16 := (naturalBelow? 0x10000 value).map .ofNat

/-- A number of four bytes. -/
def u32Of? (value : Value) : Option UInt32 := (naturalBelow? 0x100000000 value).map .ofNat

/-- A number of eight bytes. -/
def u64Of? (value : Value) : Option UInt64 := (naturalBelow? 0x10000000000000000 value).map .ofNat

/-- A list. -/
def listOf? {α : Type} (read : Value → Option α) : Value → Option (List α)
  | .array items => items.mapM read
  | _ => none

/-- An internet address. -/
def ipOf? (value : Value) : Option IpAddress := do IpAddress.ofText? (← textOf? value)

/-- A kind of station: its name, or an object with the name and nothing or the tag. -/
def kindOf? : Value → Option StationKind
  | .string (some "user") => some .user
  | .string (some "fixed") => some .fixed
  | .object [(some "user", .null)] => some .user
  | .object [(some "fixed", .null)] => some .fixed
  | .object [(some "other", value)] => (u8Of? value).map .other
  | _ => none

/-! ## Reading sections -/

/-- The address of a neighbour. -/
def peerOf? (value : Value) : Option PeerAddress := do
  match ← sectionValues [["host"], ["port"]] value with
  | [some host, some port] => return ⟨← textOf? host, ← u16Of? port⟩
  | _ => none

/-- The section on the cache. -/
def logicOf? (value : Value) : Option LogicSection := do
  let fields := [["cache_size", "cacheSize"], ["read_only", "readonly"]]
  match ← sectionValues fields value with
  | [cacheSize, readOnly] =>
    let standard : LogicSection := {}
    return {
      cacheSize := ← orDefault standard.cacheSize u64Of? cacheSize
      readOnly := ← orDefault standard.readOnly boolOf? readOnly }
  | _ => none

/-- The names of the fields of the node section. -/
def nodeFields : List (List String) := [
  ["bind_address", "bindAddress"],
  ["port"],
  ["peer_queue_size", "peerQueueSize"],
  ["retries"],
  ["reconnect_interval_secs", "reconnectTimeout"],
  ["connect_timeout_secs", "connectTimeout"],
  ["max_frame_size", "maxFrameSize"],
  ["peers"],
  ["logic"]]

/-- The section on the node. -/
def nodeOf? (value : Value) : Option NodeSection := do
  match ← sectionValues nodeFields value with
  | [bindAddress, port, peerQueueSize, retries, reconnectInterval, connectTimeout, maxFrameSize,
      peers, logic] =>
    let standard : NodeSection := {}
    return {
      bindAddress := ← orDefault standard.bindAddress textOf? bindAddress
      port := ← orDefault standard.port u16Of? port
      peerQueueSize := ← orDefault standard.peerQueueSize u64Of? peerQueueSize
      retries := ← orDefault standard.retries u32Of? retries
      reconnectInterval := ← orDefault standard.reconnectInterval u64Of? reconnectInterval
      connectTimeout := ← orDefault standard.connectTimeout u64Of? connectTimeout
      maxFrameSize := ← orDefault standard.maxFrameSize u64Of? maxFrameSize
      peers := ← orDefault standard.peers (listOf? peerOf?) peers
      logic := ← orDefault standard.logic logicOf? logic }
  | _ => none

/-- The section on the station. -/
def stationOf? (value : Value) : Option StationSection := do
  let fields := [["callsign"], ["contact_type", "contactType"], ["ips"]]
  match ← sectionValues fields value with
  | [some callsign, kind, ips] =>
    return {
      callsign := ← textOf? callsign
      kind := ← orDefault .fixed kindOf? kind
      ips := ← orDefault [] (listOf? ipOf?) ips }
  | _ => none

/-- All settings. -/
def ofValue? (value : Value) : Option Settings := do
  match ← sectionValues [["node"], ["station"]] value with
  | [node, some station] =>
    return { node := ← orDefault {} nodeOf? node, station := ← stationOf? station }
  | _ => none

/-- The settings of a document, which must be valid. -/
def ofText (document : String) : Except SettingsError Settings :=
  match Value.ofText? document >>= ofValue? with
  | none => .error .notUnderstood
  | some settings =>
    match settings.validate with
    | .ok () => .ok settings
    | .error fault => .error (.invalid fault)

/-- The settings in a file with these contents, if there is one. -/
def ofFile (contents : Option Bytes) : Except SettingsError Settings :=
  match contents >>= Text.ofUtf8? with
  | none => .error .unreadable
  | some document => ofText document

/-! ## Writing -/

/-- The address of a neighbour as a value. -/
def peerValue (peer : PeerAddress) : Value :=
  .record [("host", .text peer.host), ("port", .natural peer.port.toNat)]

/-- A kind of station as a value. -/
def kindValue : StationKind → Value
  | .user => .text "user"
  | .fixed => .text "fixed"
  | .other tag => .record [("other", .natural tag.toNat)]

/-- The section on the cache as a value. -/
def logicValue (logic : LogicSection) : Value :=
  .record [("cache_size", .natural logic.cacheSize.toNat), ("read_only", .bool logic.readOnly)]

/-- The section on the node as a value. -/
def nodeValue (node : NodeSection) : Value :=
  .record [
    ("bind_address", .text node.bindAddress),
    ("port", .natural node.port.toNat),
    ("peer_queue_size", .natural node.peerQueueSize.toNat),
    ("retries", .natural node.retries.toNat),
    ("reconnect_interval_secs", .natural node.reconnectInterval.toNat),
    ("connect_timeout_secs", .natural node.connectTimeout.toNat),
    ("max_frame_size", .natural node.maxFrameSize.toNat),
    ("peers", .array (node.peers.map peerValue)),
    ("logic", logicValue node.logic)]

/-- The section on the station as a value. -/
def stationValue (station : StationSection) : Value :=
  .record [
    ("callsign", .text station.callsign),
    ("contact_type", kindValue station.kind),
    ("ips", .array (station.ips.map fun ip => .text ip.text))]

/-- All settings as a value. -/
def toValue (settings : Settings) : Value :=
  .record [("node", nodeValue settings.node), ("station", stationValue settings.station)]

/-- The document of settings. -/
def text (settings : Settings) : String := settings.toValue.pretty

end Settings

end RadioGossip
