import RadioGossip.CommandLine
import RadioGossip.Service.OnAir
import Std.Async.Signal
import Std.Time.DateTime.Timestamp

/-!
# The program

Runs a station by its settings document until it is interrupted. The exit code is two for wrong
arguments and one for every other failure.
-/

namespace RadioGossip

open Std Async

/-- The milliseconds since 1970. -/
def clock : IO UInt64 := do
  return .ofNat (← Time.Timestamp.now).toMillisecondsSinceUnixEpoch.toInt.toNat

/-- The contents of a file, if it can be read. -/
def contents? (path : String) : IO (Option Bytes) := do
  try return some (← IO.FS.readBinFile path).toList
  catch _ => return none

/-- Tells a service of the first interrupt. -/
def awaitInterrupt (happenings : OnAir.Happenings) : Async Unit := do
  let interrupt ← Signal.Waiter.mk .sigint true
  discard (await (← interrupt.wait))
  OnAir.tell happenings .interrupted

/-- Listens where a service is to listen. -/
def listen (service : Service) : IO (Except LinkError TCP.Socket.Server) := do
  let address := CommandLine.address service
  try return .ok (← OnAir.listen address)
  catch error => return .error (.connectionFailed s!"bind {address.text}: {error}")

/-- Tells the operator something, if the run is told. -/
def report (options : RunOptions) (line : String) : IO Unit := do
  if CommandLine.isTold options then
    IO.println line
    (← IO.getStdout).flush

/-- Runs a station until it is interrupted. -/
def runStation (path : String) (options : RunOptions) :
    ExceptT CommandLine.LaunchError IO Unit := do
  let settings ← ofExcept (CommandLine.load path options (← contents? path))
  let service ← ofExcept (CommandLine.assemble settings (← clock))
  let listening ← listen service
  let service ← ofExcept (CommandLine.start service (listening.map fun _ => ()))
  if let .ok server := listening then
    report options s!"{settings.station.callsign} is running, press Ctrl-C to stop"
    let happenings ← Channel.new
    discard (awaitInterrupt happenings).asTask
    let service ← (OnAir.run happenings service server).block
    report options (CommandLine.finalLine service)

end RadioGossip

open RadioGossip in
/-- Runs the program. -/
def main (arguments : List String) : IO UInt32 := do
  match CommandLine.parse arguments with
  | .help =>
    IO.println CommandLine.helpText
    return 0
  | .version =>
    IO.println CommandLine.versionText
    return 0
  | .misuse =>
    IO.eprintln CommandLine.helpText
    return 2
  | .run path options =>
    match ← (runStation path options).run with
    | .ok () => return 0
    | .error error =>
      IO.eprintln error.report
      return 1
