import RadioGossip.Node.Basic
import RadioGossip.Text.Blank

/-!
# Settings

What an operator decides about a station: who it is, and how its node listens, dials and remembers.
Valid settings make a contact that other stations can tell apart in paths, and a node that can do
its work.
-/

namespace RadioGossip

/-- Settings of the cache. -/
structure LogicSection where
  cacheSize : UInt64 := 1000
  readOnly : Bool := false
  deriving DecidableEq, Repr

/-- Settings of the node. Times are in seconds. -/
structure NodeSection where
  bindAddress : String := "0.0.0.0"
  port : UInt16 := 7000
  peerQueueSize : UInt64 := 100
  retries : UInt32 := 3
  reconnectInterval : UInt64 := 10
  connectTimeout : UInt64 := 10
  maxFrameSize : UInt64 := 262144
  peers : List PeerAddress := []
  logic : LogicSection := {}
  deriving DecidableEq, Repr

/-- Who the station is. -/
structure StationSection where
  callsign : String
  kind : StationKind := .fixed
  ips : List IpAddress := []
  deriving DecidableEq, Repr

/-- All settings of a station. -/
structure Settings where
  node : NodeSection := {}
  station : StationSection
  deriving DecidableEq, Repr

/-- Why settings make no sense. -/
inductive SettingsFault where
  | blankCallsign
  | longCallsign
  | callsignWithSeparator
  | noCache
  | noQueue
  | noReconnectInterval
  | link (cause : LinkError)
  | contact (cause : WireError)
  deriving DecidableEq, Repr

/-- The fault in words. -/
def SettingsFault.message : SettingsFault → String
  | blankCallsign => "Invalid config: station callsign cannot be empty"
  | longCallsign => s!"Invalid config: station callsign longer than {maxFieldLength} bytes"
  | callsignWithSeparator => "Invalid config: station callsign cannot contain ';'"
  | noCache => "Invalid config: cache_size cannot be 0"
  | noQueue => "Invalid config: peer_queue_size cannot be 0"
  | noReconnectInterval => "Invalid config: reconnect_interval_secs cannot be 0"
  | link cause => s!"Invalid config: {cause.message}"
  | contact cause => s!"Invalid config: {cause.message}"

/-- Why there are no settings. -/
inductive SettingsError where
  /-- There is no file, or it holds no text. -/
  | unreadable
  /-- The text is no settings document. -/
  | notUnderstood
  | invalid (fault : SettingsFault)
  deriving DecidableEq, Repr

/-- The failure in words. -/
def SettingsError.message : SettingsError → String
  | unreadable => "Failed to read config"
  | notUnderstood => "Failed to parse config"
  | invalid fault => fault.message

/-- How the node of these settings runs. -/
def NodeSection.settings (node : NodeSection) : NodeSettings where
  bindAddress := node.bindAddress
  port := node.port
  peers := node.peers
  queueSize := node.peerQueueSize.toNat
  retries := node.retries.toNat
  reconnectInterval := node.reconnectInterval.toNat
  link := { dialTimeout := node.connectTimeout.toNat, maxFrameSize := node.maxFrameSize.toNat }
  cacheSize := node.logic.cacheSize.toNat
  readOnly := node.logic.readOnly

/-- The contact that the station announces. -/
def StationSection.contact (station : StationSection) : Except WireError Contact := do
  let contact ← Contact.make station.kind (Text.utf8 station.callsign)
  contact.withIps (station.ips.map IpRecord.ofAddress)

namespace Settings

/-- Refuses settings that make no sense, for the first fault that is found. -/
def validate (settings : Settings) : Except SettingsFault Unit :=
  let callsign := settings.station.callsign
  if Text.isBlank callsign then .error .blankCallsign
  else if maxFieldLength < callsign.utf8ByteSize then .error .longCallsign
  else if callsign.toList.contains Path.separator then .error .callsignWithSeparator
  else if settings.node.logic.cacheSize = 0 then .error .noCache
  else if settings.node.peerQueueSize = 0 then .error .noQueue
  else if settings.node.reconnectInterval = 0 then .error .noReconnectInterval
  else
    match settings.node.settings.link.validate with
    | .ok () => .ok ()
    | .error cause => .error (.link cause)

/-- The contact that the station announces. There is none for a callsign or a list of addresses
that no contact can hold. -/
def contact (settings : Settings) : Except SettingsFault Contact :=
  match settings.station.contact with
  | .ok contact => .ok contact
  | .error cause => .error (.contact cause)

end Settings

end RadioGossip
