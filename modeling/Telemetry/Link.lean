/-
Two nodes on one serial line that loses nothing. Between steps of a program the
line runs until it is idle: in each wave both writers empty their queues, both
readers cut what came into frames, and each node takes in the packets of its
frames. What a node sends meanwhile waits for the next wave.

An acknowledgement sets off nothing. A packet of a wave after the first was set
off by a callback's operation or is an acknowledgement, and there are at most
two such operations at each node, so no line needs more than `waveLimit` waves.
-/

import Telemetry.Device.Serial
import Telemetry.Registry.Node

namespace Telemetry

structure LinkEnd (ρ : Type) where
  node : Node SerialDevice ρ
  framer : Framer := .standard

namespace LinkEnd

variable {ρ : Type}

def start (acknowledges : Bool) (depth : Nat) (sources : Sources) : LinkEnd ρ :=
  { node := { station := .start acknowledges sources { depth } } }

def emptied (side : LinkEnd ρ) : Bytes × LinkEnd ρ :=
  let station := side.node.station
  let device := { station.device with queue := [] }
  (station.device.queue.flatten,
    { side with node := side.node.withStation { station with device } })

/-- Takes in bytes from the line. A packet that is refused is dropped. -/
def takeIn (side : LinkEnd ρ) (bytes : Bytes) : LinkEnd ρ :=
  let (framer, frames) := side.framer.push bytes
  let packets := frames.map fun frame => Operation.receive (Frame.decode frame)
  { side with node := (side.node.runAll packets).2, framer }

def isIdle (side : LinkEnd ρ) : Bool := side.node.station.device.queue.isEmpty

end LinkEnd

structure Link (ρ : Type) where
  first : LinkEnd ρ
  second : LinkEnd ρ

namespace Link

variable {ρ : Type}

def wave (link : Link ρ) : Link ρ :=
  let (fromFirst, first) := link.first.emptied
  let (fromSecond, second) := link.second.emptied
  { first := first.takeIn fromSecond, second := second.takeIn fromFirst }

/-- Enough waves for a line to come to rest, whatever callbacks ask meanwhile. -/
def waveLimit : Nat := 4 * Node.occasionCount

def runWaves : Nat → Link ρ → Link ρ
  | 0, link => link
  | waves + 1, link =>
      if link.first.isIdle && link.second.isIdle then link else runWaves waves link.wave

def settle (link : Link ρ) : Link ρ := runWaves waveLimit link

end Link

end Telemetry
