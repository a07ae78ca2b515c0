/-
A monitor: an end of a link that only listens. It takes the bytes of a line as
they come, answers advertisements if it is meant to, and reports what it sees: a
channel that was learned with its schema, and values that came in one a line,
each under its path.
-/

import Telemetry.Link
import Telemetry.Part.Print
import Telemetry.Part.Walk

namespace Telemetry

structure MonitorOptions where
  acknowledges : Bool := true
  help : Bool := false
  deriving DecidableEq, Repr

namespace MonitorOptions

def usage : String :=
  "Usage: telemetry-monitor [--no-ack]\n\n" ++
    "Listens to a debug link on standard input and reports every channel it learns.\n" ++
    "Answers for the link are written to standard output.\n\n" ++
    "Options:\n" ++
    "      --no-ack  Do not acknowledge received broadcasts\n" ++
    "  -h, --help    Print help"

def ofArguments : List String → Except String MonitorOptions
  | [] => .ok {}
  | argument :: rest =>
      if argument = "--no-ack" then
        (ofArguments rest).map fun options => { options with acknowledges := false }
      else if argument = "-h" ∨ argument = "--help" then
        (ofArguments rest).map fun options => { options with help := true }
      else .error argument

end MonitorOptions

abbrev Monitor := LinkEnd Unit

namespace Monitor

def queueDepth : Nat := 64

def start (options : MonitorOptions) : Monitor :=
  let side := LinkEnd.start options.acknowledges queueDepth .empty
  let listen : Callback Unit := { label := none, pending := none }
  { side with node := (side.node.install .broadcast listen).install .data listen }

def leafReport (leaf : String × Part.FlatValue) : String := leaf.1 ++ " = " ++ leaf.2.render

def callReport (call : Call Unit) : List String :=
  match call.occasion with
  | .broadcast =>
      ["New channel " ++ toString call.channel.id.toNat ++ ":",
        call.channel.tree.print .schema]
  | .data => call.channel.tree.flatten.map leafReport

/-- Takes in bytes. Gives back the report, the bytes to answer with, and the monitor
to go on with. -/
def takeIn (monitor : Monitor) (bytes : Bytes) : List String × Bytes × Monitor :=
  let after := LinkEnd.takeIn monitor bytes
  let (answers, emptied) := after.emptied
  let station := { emptied.node.station with sent := [] }
  (after.node.log.flatMap callReport, answers,
    { emptied with node := { emptied.node with log := [], station } })

def summary (monitor : Monitor) : String :=
  "Saw " ++ toString monitor.node.station.registry.remote.entries.length ++ " channel(s)"

end Monitor

end Telemetry
