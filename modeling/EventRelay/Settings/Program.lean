import EventRelay.Publish.Delivery
import EventRelay.Settings.Commands

/-!
# Running a command

What a run of the program prints and how it ends. The network, the opening of
the database and the binding of the address are given from outside, and so
are clock and random id. A listener that is up leaves nothing to report.
-/

set_option autoImplicit false

namespace EventRelay.Program

open EventRelay.Settings EventRelay.Text

structure Report where
  exit : Nat
  stdout : String := ""
  stderr : String := ""
  deriving DecidableEq, Repr

structure Surroundings (ω : Type) where
  network : Publish.Network ω
  stamp : Stamp
  openDatabase : String → Except StoreError Unit
  bind : Net.SocketAddress → Option String

def name : String := "hookbridge"

def version : String := "0.1.0"

def indented (s : String) : String :=
  String.ofList (s.toList.flatMap fun c => if c = '\n' then "\n    ".toList else [c])

def failure (message : String) (cause : Option String) : Report :=
  { exit := 1
    stderr := "Error: " ++ message ++ "\n" ++
      match cause with
      | some c => "\nCaused by:\n    " ++ indented c ++ "\n"
      | none => "" }

def usageReport : CommandLine.Usage → Report
  | .help => { exit := 0 }
  | .version => { exit := 0, stdout := name ++ " " ++ version ++ "\n" }
  | _ => { exit := 2 }

variable {ω : Type}

def publish (around : Surroundings ω) (c : PublishConfig) (w : ω) : Report × ω :=
  match c.event.envelope around.stamp with
  | .error e => (failure "build event" (some e.message), w)
  | .ok envelope =>
    match Publish.publish around.network c.credentials envelope.body w with
    | (.error e, w) => (failure "publish event" (some e.message), w)
    | (.ok (), w) =>
      ({ exit := 0
         stdout := "Published " ++ envelope.resolvedType ++ " for service=" ++ c.event.service ++
           " env=" ++ c.event.environment ++ "\n" }, w)

/-- Starts a listener. Paths that cannot be routed abort the program. -/
def serve (around : Surroundings ω) (c : ServeConfig) : Report :=
  match around.openDatabase c.databasePath with
  | .error e => failure ("open installation store " ++ c.databasePath) (some e.message)
  | .ok () =>
    match Listener.routes? c.listener.webhookPath c.setup.callbackPath with
    | none => { exit := 101 }
    | some _ =>
      match around.bind c.address with
      | some reason => failure ("bind " ++ c.address.text) (some reason)
      | none => { exit := 0 }

def run (around : Surroundings ω) (environment : CommandLine.Environment)
    (arguments : List String) (w : ω) : Report × ω :=
  match Command.read environment arguments with
  | .error (.usage usage) => (usageReport usage, w)
  | .error (.config e) => (failure e.message none, w)
  | .ok (.serve c) => (serve around c, w)
  | .ok (.publish c) => publish around c w

end EventRelay.Program
