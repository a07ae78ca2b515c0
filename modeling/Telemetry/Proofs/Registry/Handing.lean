/-
What one end of a link hands to its device. A tapped device keeps every packet it
is handed, whether it takes it or refuses it, and is otherwise the device it was.

Handing a packet over leaves the registry as it is. What is sent of a channel is written of
the refreshed channel, which is stored before.
-/

import Telemetry.Registry.Send

namespace Telemetry

structure Tapped (δ : Type) where
  device : δ
  handed : List Bytes := []

namespace Tapped

variable {δ : Type}

def send [Device δ] (packet : Bytes) (tapped : Tapped δ) :
    Except DeviceError Unit × Tapped δ :=
  let (outcome, device) := Device.send packet tapped.device
  (outcome, ⟨device, tapped.handed ++ [packet]⟩)

instance [Device δ] : Device (Tapped δ) := ⟨send⟩

end Tapped

namespace Station

variable {δ : Type} [Device δ]

/-- The packets handed over, the oldest first. -/
def handed (station : Station (Tapped δ)) : List Bytes := station.device.handed

@[simp]
theorem transmit_handed (station : Station (Tapped δ)) (packet : Bytes) :
    (station.transmit packet).2.handed = station.handed ++ [packet] := by
  have kept : (Device.send packet station.device).2.handed = station.device.handed ++ [packet] :=
    rfl
  unfold transmit
  split
  · next device taken =>
      rw [taken] at kept
      exact kept
  · next error device refused =>
      rw [refused] at kept
      exact kept

@[simp]
theorem transmitWritten_handed (station : Station (Tapped δ))
    (packet : Except EncodeError Bytes) :
    (station.transmitWritten packet).2.handed = station.handed ++ packet.toOption.toList := by
  cases packet with
  | error error => exact (List.append_nil station.handed).symm
  | ok bytes =>
      rw [transmitWritten_after, transmit_handed]
      rfl

theorem sendOpened_opened {station : Station δ} {id : ChannelId} {channel : Channel}
    (found : station.registry.opened? id = some channel)
    (packetOf : ChannelId → Part → Except EncodeError Bytes) :
    let fetched := channel.tree.fetch station.sources
    let packet := packetOf channel.id fetched.1
    let written := { channel with tree := fetched.1, scratch := packet.toOption.getD [] }
    station.sendOpened (fun channel => channel.keep (packetOf channel.id channel.tree)) id =
      { station with
        registry := station.registry.setOpened id written
        sources := fetched.2 }.transmitWritten packet := by
  unfold sendOpened
  rw [found]
  rfl

theorem sendOpened_unknown {station : Station δ} {id : ChannelId}
    (absent : station.registry.opened? id = none)
    (write : Channel → Except EncodeError Bytes × Channel) :
    (station.sendOpened write id).2 = station := by
  unfold sendOpened
  rw [absent]

end Station

end Telemetry
