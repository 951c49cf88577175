import EventRelay.Event.Envelope
import EventRelay.Settings.Program
import Std.Time.DateTime.Timestamp

/-!
# The program

Reads arguments, environment, clock and random octets, runs the command, and
prints its report. This build has no sockets of its own: the dashboard cannot
be reached from it, and no address can be bound.
-/

set_option autoImplicit false

namespace EventRelay.Program

def environmentNames : List String :=
  (Settings.serveFlags ++ Settings.publishFlags).filterMap fun flag => flag.envName

def readEnvironment : IO CommandLine.Environment :=
  environmentNames.filterMapM fun name => do
    return (← IO.getEnv name).map fun value => (name, value)

def readStamp : IO Stamp := do
  let now ← Std.Time.Timestamp.now
  let octets ← IO.getRandomBytes 16
  let nanos := now.toNanosecondsSinceUnixEpoch.val
  let instant := Timestamp.make? (nanos / 1000000000) (nanos % 1000000000).toNat
  return ⟨instant.getD .epoch, Uuid.text octets.toList⟩

end EventRelay.Program

open EventRelay EventRelay.Program

def main (arguments : List String) : IO UInt32 := do
  let around : Surroundings Unit :=
    { network := Publish.unreachable
      stamp := ← readStamp
      openDatabase := fun _ => .ok ()
      bind := fun _ => some "Cannot assign requested address (os error 99)" }
  let report := (run around (← readEnvironment) arguments ()).1
  IO.print report.stdout
  IO.eprint report.stderr
  return report.exit.toUInt32
