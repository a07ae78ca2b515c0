/-
A device that never leaves the process. It takes every packet, until it is told
to fail: then it takes as many more as it was told and refuses all others.
-/

import Telemetry.Device
import Telemetry.Text.Outline

namespace Telemetry

inductive Fault where
  | inputOutput
  | driver
  | queueFull
  | closed
  /-- The packet is blamed for its size. -/
  | tooLarge
  deriving DecidableEq, Repr

def Fault.error (fault : Fault) (packet : Bytes) : DeviceError :=
  match fault with
  | .inputOutput => .inputOutput
  | .driver => .driver
  | .queueFull => .queueFull
  | .closed => .closed
  | .tooLarge => .frameTooLarge packet.length

structure MemoryDevice where
  /-- How many packets are still taken, and why those after them are refused. -/
  failing : Option (Nat × Fault) := none
  deriving DecidableEq, Repr

namespace MemoryDevice

def failAfter (more : Nat) (fault : Fault) : MemoryDevice := ⟨some (more, fault)⟩

def sound : MemoryDevice := {}

def send (packet : Bytes) (device : MemoryDevice) : Except DeviceError Unit × MemoryDevice :=
  match device.failing with
  | none => (.ok (), device)
  | some (0, fault) => (.error (fault.error packet), device)
  | some (more + 1, fault) => (.ok (), failAfter more fault)

instance : Device MemoryDevice := ⟨send⟩

/-- The device with `sent` packets kept in it. -/
def outline (sent : Nat) (listening : Bool) : Outline :=
  .structured "MemoryDevice" [("sent", .number sent), ("listening", .flag listening)]

end MemoryDevice

end Telemetry
