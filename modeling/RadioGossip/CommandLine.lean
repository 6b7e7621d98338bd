import RadioGossip.Link.Dialling
import RadioGossip.Service.Basic
import RadioGossip.Settings.Document
import RadioGossip.Text.Line

/-!
# The command line

A station is run with the path of its settings document. Its port and its callsign may be given in
place of those in the document:

    --config PATH [--log-level LEVEL] [--port PORT] [--callsign CALLSIGN]

Arguments are taken from left to right, and the first that is wrong ends it, as do `--help` and
`--version`. An option takes its value from behind an equals sign or from the next argument, which
must not look like an option, and it may be given once.

Settings are checked twice, as they stand in the document and as they are after the command line.
-/

namespace RadioGossip

/-- What the command line says about a run. -/
structure RunOptions where
  config : Option String := none
  logLevel : Option String := none
  port : Option UInt16 := none
  callsign : Option String := none
  deriving DecidableEq, Repr

/-- What the command line asks for. -/
inductive Invocation where
  | help
  | version
  /-- The arguments are wrong. -/
  | misuse
  | run (config : String) (options : RunOptions)
  deriving DecidableEq, Repr

namespace CommandLine

/-- The name of the program. -/
def programName : String := "hammesh"

/-- The text of the version. -/
def versionText : String := s!"{programName} 0.1.0"

/-- The text of the help. -/
def helpText : String := "\n".intercalate [
  "Gossip node for radio-network station discovery",
  "",
  s!"Usage: {programName} [OPTIONS] --config <CONFIG>",
  "",
  "Options:",
  "      --config <CONFIG>        Path to the JSON config file",
  "      --log-level <LOG_LEVEL>  Log level (trace, debug, info, warn, error) [default: info]",
  "      --port <PORT>            Override the listener port",
  "      --callsign <CALLSIGN>    Override the station callsign",
  "  -h, --help                   Print help",
  "  -V, --version                Print version"]

/-! ## Arguments -/

/-- A port. A plus sign may stand before it, and a minus sign before nothing but zero. -/
def port? (text : String) : Option UInt16 :=
  let value := match text.toList with
    | '+' :: cs => Text.numberOf? 10 65536 cs
    | '-' :: cs => Text.numberOf? 10 1 cs
    | cs => Text.numberOf? 10 65536 cs
  value.map .ofNat

/-- Sets an option, which must be known, not set yet, and take this value. -/
def set? (options : RunOptions) (name value : String) : Option RunOptions :=
  match name with
  | "config" =>
    if options.config.isNone && value ≠ "" then some { options with config := some value } else none
  | "log-level" =>
    if options.logLevel.isNone then some { options with logLevel := some value } else none
  | "callsign" =>
    if options.callsign.isNone then some { options with callsign := some value } else none
  | "port" =>
    match options.port, port? value with
    | none, some port => some { options with port := some port }
    | _, _ => none
  | _ => none

/-- Splits the text of an argument at its first equals sign. -/
def splitValue (cs : List Char) : String × Option String :=
  let name := String.ofList (cs.takeWhile (· ≠ '='))
  match cs.dropWhile (· ≠ '=') with
  | [] => (name, none)
  | _ :: value => (name, some (String.ofList value))

/-- Whether an argument cannot be the value of the option before it. -/
def looksLikeOption (argument : String) : Bool :=
  match argument.toList with
  | '-' :: _ :: _ => true
  | _ => false

/-- What the options of a run amount to. -/
def finish (options : RunOptions) : Invocation :=
  match options.config with
  | some config => .run config options
  | none => .misuse

/-- Takes the arguments from left to right. -/
def parseFrom (options : RunOptions) : List String → Invocation
  | [] => finish options
  | argument :: arguments =>
    match argument.toList with
    | ['-', '-'] => if arguments.isEmpty then finish options else .misuse
    | '-' :: '-' :: text =>
      match splitValue text with
      | ("help", none) => .help
      | ("version", none) => .version
      | (name, some value) =>
        match set? options name value with
        | some options => parseFrom options arguments
        | none => .misuse
      | (name, none) =>
        match arguments with
        | [] => .misuse
        | value :: arguments =>
          if looksLikeOption value then .misuse
          else
            match set? options name value with
            | some options => parseFrom options arguments
            | none => .misuse
    | '-' :: 'h' :: _ => .help
    | '-' :: 'V' :: _ => .version
    | _ => .misuse

/-- What the arguments ask for. -/
def parse (arguments : List String) : Invocation := parseFrom {} arguments

/-! ## How much is told

The log level may be a row of **directives** with commas between them. A directive is a level, or
the beginning of the name of those it is about with a level behind an equals sign. The directive
with the longest name that fits counts, of several such the last. Whatever is no directive is
skipped.
-/

/-- The number of a level, with a plus sign or without. -/
def levelNumber? : List Char → Option Nat
  | '+' :: cs => Text.numberOf? 10 6 cs
  | cs => Text.numberOf? 10 6 cs

/-- A level by its name or its number. -/
def level? (text : String) : Option Nat :=
  match text.toLower with
  | "off" => some 0
  | "error" => some 1
  | "warn" => some 2
  | "info" => some 3
  | "debug" => some 4
  | "trace" => some 5
  | number => levelNumber? number.toList

/-- Whom a directive is about, and its level. A name without a level asks for everything. -/
def directive? (text : String) : Option (String × Nat) :=
  match level? text, splitValue text.toList with
  | some level, _ => some ("", level)
  | none, (name, none) => some (name, 5)
  | none, (name, some "") => some (name, 5)
  | none, (name, some level) => (level? level).map fun level => (name, level)

/-- The level that directives set for someone. Without any, errors are told. -/
def levelFor (name directives : String) : Nat :=
  let texts := (directives.splitOn ",").filter (· ≠ "")
  let fitting := (texts.filterMap directive?).filter fun (start, _) => name.startsWith start
  (fitting.foldl (fun best next => if best.1.length ≤ next.1.length then next else best) ("", 1)).2

/-- Whether a run tells what it does, which is so from the level of information on. -/
def isTold (options : RunOptions) : Bool :=
  3 ≤ levelFor programName (options.logLevel.getD "info")

/-! ## Starting -/

/-- Why a station cannot be run. -/
inductive LaunchError where
  /-- The settings document at this path gives no settings. -/
  | loading (path : String) (cause : SettingsError)
  | settings (fault : SettingsFault)
  | starting (cause : StartError)
  deriving DecidableEq, Repr

/-- The failure in words. -/
def LaunchError.message : LaunchError → String
  | loading path _ => s!"Error: loading {path}"
  | settings fault => s!"Error: {fault.message}"
  | starting _ => "Error: starting node"

/-- What the failure comes from, if that is not the failure itself. -/
def LaunchError.cause? : LaunchError → Option String
  | loading _ cause => some cause.message
  | settings _ => none
  | starting cause => some cause.message

/-- The failure with what it comes from. -/
def LaunchError.report (error : LaunchError) : String :=
  match error.cause? with
  | some cause => s!"{error.message}\n\nCaused by:\n    {cause}"
  | none => error.message

/-- The first line of the report. -/
def LaunchError.headline (error : LaunchError) : String := Text.firstLine error.report

/-- The settings with what the command line says in place of the document. -/
def override (options : RunOptions) (settings : Settings) : Settings where
  node := { settings.node with port := options.port.getD settings.node.port }
  station :=
    { settings.station with callsign := options.callsign.getD settings.station.callsign }

/-- The settings of a run, given the contents of the file, if there is one. -/
def load (path : String) (options : RunOptions) (contents : Option Bytes) :
    Except LaunchError Settings := do
  let settings ← (Settings.ofFile contents).mapError (.loading path)
  let settings := override options settings
  settings.validate.mapError .settings
  return settings

/-- The service of settings, with a tally and a reconciler registered in this order. -/
def assemble (settings : Settings) (clock : UInt64) : Except LaunchError Service := do
  let contact ← settings.contact.mapError .settings
  let station := Station.ofNode (.new contact settings.node.settings clock)
  return .ofStation station.registerTally.1.registerReconciler.1

/-- Where a service listens. -/
def address (service : Service) : PeerAddress :=
  ⟨service.node.settings.bindAddress, service.node.settings.port⟩

/-- Starts a service, if it can listen. -/
def start (service : Service) (listening : Except LinkError Unit) : Except LaunchError Service :=
  match service.start listening with
  | (service, .ok ()) => .ok service
  | (_, .error cause) => .error (.starting cause)

/-- The settings of a run, and the service that runs by them. -/
def launch (path : String) (options : RunOptions) (contents : Option Bytes) (clock : UInt64) :
    Except LaunchError (Settings × Service) := do
  let settings ← load path options contents
  let service ← assemble settings clock
  return (settings, ← start service (address service).listen)

/-! ## Stopping -/

/-- The counts that a station leaves behind, by name. -/
def finalStatistics (service : Service) : List (String × Nat) :=
  let stats := service.node.engine.stats
  [("processed", stats.processed),
    ("relayed", stats.relayed),
    ("duplicates", stats.duplicates),
    ("cached", service.node.engine.cache.size),
    ("acks_received", service.station.tallies.foldl (fun sum tally => sum + tally.received) 0),
    ("reconcile_queries",
      service.station.reconcilers.foldl (fun sum stats => sum + stats.queries) 0)]

/-- The counts that a station leaves behind, on one line. -/
def finalCounts (service : Service) : String :=
  " ".intercalate ((finalStatistics service).map fun (name, count) => s!"{name}={count}")

/-- The last line of a run. -/
def finalLine (service : Service) : String := s!"Final statistics {finalCounts service}"

end CommandLine

end RadioGossip
