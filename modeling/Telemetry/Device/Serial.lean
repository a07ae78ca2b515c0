/-
The sending side of a device on a serial line. A packet is framed at once and
the frame waits in a bounded queue, from which a writer takes one after the
other. Handing over never blocks: a frame longer than the peer takes, a queue
without room, and a device whose writer has stopped each refuse the packet.

A device that is dropped takes no more packets; what waits in its queue is still
written.
-/

import Telemetry.Device
import Telemetry.Framer
import Telemetry.Text.Outline

namespace Telemetry

structure SerialDevice where
  /-- How many frames may wait, as asked for. -/
  depth : Nat
  queue : List Bytes := []
  /-- Whether the writer has given up on the line. -/
  stopped : Bool := false
  dropped : Bool := false
  deriving DecidableEq, Repr

namespace SerialDevice

/-- Room for one frame there always is. -/
def capacity (device : SerialDevice) : Nat := max device.depth 1

@[simp]
theorem capacity_queue (device : SerialDevice) (queue : List Bytes) :
    { device with queue }.capacity = device.capacity :=
  rfl

/-- The length of a packet's frame without its delimiters. -/
def framedSize (packet : Bytes) : Nat := (Frame.encode packet).length - 2

def send (packet : Bytes) (device : SerialDevice) : Except DeviceError Unit × SerialDevice :=
  if Framer.standardLimit < framedSize packet then
    (.error (.frameTooLarge (framedSize packet)), device)
  else if device.stopped then (.error .closed, device)
  else if device.queue.length < device.capacity then
    (.ok (), { device with queue := device.queue ++ [Frame.encode packet] })
  else (.error .queueFull, device)

instance : Device SerialDevice := ⟨send⟩

def takeFrame? (device : SerialDevice) : Option (Bytes × SerialDevice) :=
  match device.queue with
  | [] => none
  | frame :: rest => some (frame, { device with queue := rest })

def stop (device : SerialDevice) : SerialDevice :=
  { device with queue := [], stopped := true }

def drop (device : SerialDevice) : SerialDevice := { device with dropped := true }

/-- Whether the writer has nothing left to do, now or later. -/
def writerEnded (device : SerialDevice) : Bool :=
  device.stopped || (device.dropped && device.queue.isEmpty)

def outline (device : SerialDevice) : Outline :=
  .structured "SerialDevice" [("closed", .flag device.stopped)]

end SerialDevice

end Telemetry
