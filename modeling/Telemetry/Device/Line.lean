/-
A serial line as one device sees it: the bytes that have come in and are not yet
read, the bytes the peer has been sent, and the faults the line shows. A fault
of reading shows once, before any bytes that wait; a fault of writing stays.
Writing to a peer that is gone fails, and nothing is written for an empty frame.
-/

import Telemetry.Device.Serial

namespace Telemetry

inductive ReadFault where
  /-- Nothing came in for a while. -/
  | timedOut
  | other
  deriving DecidableEq, Repr

structure Line where
  incoming : Bytes := []
  written : Bytes := []
  readFaults : List ReadFault := []
  writesFail : Bool := false
  flushesFail : Bool := false
  peerClosed : Bool := false
  deriving DecidableEq, Repr

namespace Line

def put? (line : Line) (frame : Bytes) : Option Line :=
  if frame.isEmpty then some line
  else if line.writesFail || line.peerClosed then none
  else some { line with written := line.written ++ frame }

/-- The line after a whole frame was written and pushed out, and whether that went
well. -/
def writeFrame (line : Line) (frame : Bytes) : Bool × Line :=
  match line.put? frame with
  | none => (false, line)
  | some after => (!after.flushesFail, after)

end Line

/-- A device at the end of a line, with the reader that listens to the line. Who
listens is known by a name. -/
structure Terminal where
  device : SerialDevice
  line : Line := {}
  framer : Framer := .standard
  /-- Whether the reader is still at work. -/
  reading : Bool := true
  listener : Option String := none
  /-- The packets handed on, each with the name of who listened, the oldest first. -/
  received : List (String × Bytes) := []

namespace Terminal

def opened (depth : Nat) : Terminal := { device := { depth } }

def writeNext (terminal : Terminal) : Terminal :=
  match terminal.device.takeFrame? with
  | none => terminal
  | some (frame, device) =>
      let (sound, line) := terminal.line.writeFrame frame
      { terminal with device := if sound then device else device.stop, line }

def runWriter (terminal : Terminal) : Terminal :=
  Nat.repeat writeNext terminal.device.queue.length terminal

def delivered (terminal : Terminal) (frames : List Bytes) : List (String × Bytes) :=
  match terminal.listener with
  | none => []
  | some listener => frames.map fun frame => (listener, Frame.decode frame)

/-- Everything that has come in is read, unless a fault or the end of the line ends
the reader. -/
def runReader (terminal : Terminal) : Terminal :=
  if !terminal.reading then terminal
  else if terminal.line.readFaults.contains .other then
    { terminal with reading := false, line := { terminal.line with readFaults := [] } }
  else
    let (framer, frames) := terminal.framer.push terminal.line.incoming
    { terminal with
      framer
      received := terminal.received ++ terminal.delivered frames
      reading := !terminal.line.peerClosed
      line := { terminal.line with incoming := [], readFaults := [] } }

def run (terminal : Terminal) : Terminal := terminal.runWriter.runReader

def feed (terminal : Terminal) (bytes : Bytes) : Terminal :=
  if terminal.line.peerClosed then terminal
  else { terminal with line := { terminal.line with incoming := terminal.line.incoming ++ bytes } }

/-- Whether the peer has read everything and sees the end of the line. -/
def peerSeesEnd (terminal : Terminal) : Bool :=
  !terminal.line.peerClosed && !terminal.reading && terminal.device.writerEnded

def drop (terminal : Terminal) : Terminal :=
  { terminal with device := terminal.device.drop, reading := false }

end Terminal

end Telemetry
