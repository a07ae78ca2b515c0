/-
The registry of one end of a link: the channels opened here, which are numbered
from zero in the order they were opened, the channels the peer has advertised,
and whether data has come in since the last advertisement.

A registry works at a station, together with the sources its channels draw on,
the device it sends through, and a record of the packets that device took.
-/

import Telemetry.Device
import Telemetry.Registry.Table

namespace Telemetry

structure Registry where
  /-- Whether every advertisement is answered with an acknowledgement. -/
  acknowledges : Bool := true
  /-- The channels of this end; the number of a channel is its place. -/
  opened : List Channel := []
  remote : ChannelTable := .empty
  /-- Whether data came in after the last advertisement. -/
  dataMode : Bool := false

namespace Registry

def maxChannels : Nat := 256

def opened? (registry : Registry) (id : ChannelId) : Option Channel :=
  registry.opened[id.toNat]?

def setOpened (registry : Registry) (id : ChannelId) (channel : Channel) : Registry :=
  { registry with opened := registry.opened.set id.toNat channel }

def setRemote (registry : Registry) (id : ChannelId) (channel : Channel) : Registry :=
  { registry with remote := registry.remote.insert id channel }

section Fields

variable (registry : Registry) (id : ChannelId) (channel : Channel)

@[simp]
theorem setOpened_acknowledges :
    (registry.setOpened id channel).acknowledges = registry.acknowledges :=
  rfl

@[simp]
theorem setOpened_remote : (registry.setOpened id channel).remote = registry.remote := rfl

@[simp]
theorem setOpened_dataMode : (registry.setOpened id channel).dataMode = registry.dataMode := rfl

@[simp]
theorem length_setOpened :
    (registry.setOpened id channel).opened.length = registry.opened.length :=
  List.length_set

@[simp]
theorem setRemote_acknowledges :
    (registry.setRemote id channel).acknowledges = registry.acknowledges :=
  rfl

@[simp]
theorem setRemote_dataMode : (registry.setRemote id channel).dataMode = registry.dataMode := rfl

@[simp]
theorem setRemote_remote :
    (registry.setRemote id channel).remote = registry.remote.insert id channel :=
  rfl

end Fields

def isAcked (registry : Registry) (id : ChannelId) : Bool :=
  match registry.opened? id with
  | some channel => channel.acked
  | none => false

def ackedIds (registry : Registry) (acked : Bool) : List ChannelId :=
  (registry.opened.filter fun channel => channel.acked == acked).map Channel.id

def openedIds (registry : Registry) : List ChannelId :=
  (List.range registry.opened.length).map UInt8.ofNat

def outline (registry : Registry) : Outline :=
  .structured "Registry"
    [("config",
        .structured "RegistryConfig" [("acknowledge_broadcasts", .flag registry.acknowledges)]),
      ("state",
        .structured "State"
          [("local", .list (registry.opened.map Channel.outline)),
            ("remote",
              .table (registry.remote.entries.map fun entry =>
                (toString entry.1.toNat, entry.2.outline))),
            ("data_mode", .flag registry.dataMode)])]

end Registry

structure Station (δ : Type) where
  registry : Registry
  sources : Sources
  device : δ
  /-- The packets the device took, the oldest first. -/
  sent : List Bytes := []

namespace Station

variable {δ : Type}

def start (acknowledges : Bool) (sources : Sources) (device : δ) : Station δ :=
  { registry := { acknowledges }, sources, device }

def withRegistry (station : Station δ) (registry : Registry) : Station δ :=
  { station with registry }

@[simp]
theorem withRegistry_registry (station : Station δ) (registry : Registry) :
    (station.withRegistry registry).registry = registry :=
  rfl

/-- Hands one packet to the device and records it if it was taken. -/
def transmit [Device δ] (station : Station δ) (packet : Bytes) :
    Except DeviceError Unit × Station δ :=
  match Device.send packet station.device with
  | (.ok _, device) => (.ok (), { station with device, sent := station.sent ++ [packet] })
  | (.error error, device) => (.error error, { station with device })

@[simp]
theorem transmit_registry [Device δ] (station : Station δ) (packet : Bytes) :
    (station.transmit packet).2.registry = station.registry := by
  unfold transmit
  split
  · rfl
  · rfl

@[simp]
theorem transmit_sources [Device δ] (station : Station δ) (packet : Bytes) :
    (station.transmit packet).2.sources = station.sources := by
  unfold transmit
  split
  · rfl
  · rfl

def transmitWritten [Device δ] (station : Station δ) (packet : Except EncodeError Bytes) :
    Except RegistryError Unit × Station δ :=
  match packet with
  | .error error => (.error (.encode error), station)
  | .ok bytes =>
      match station.transmit bytes with
      | (.ok _, after) => (.ok (), after)
      | (.error error, after) => (.error (.device error), after)

theorem transmitWritten_after [Device δ] (station : Station δ) (packet : Bytes) :
    (station.transmitWritten (.ok packet)).2 = (station.transmit packet).2 := by
  unfold transmitWritten
  simp only
  split
  · next outcome after taken => rw [taken]
  · next error after refused => rw [refused]

@[simp]
theorem transmitWritten_registry [Device δ] (station : Station δ)
    (packet : Except EncodeError Bytes) :
    (station.transmitWritten packet).2.registry = station.registry := by
  cases packet with
  | error error => rfl
  | ok bytes => rw [transmitWritten_after, transmit_registry]

@[simp]
theorem transmitWritten_sources [Device δ] (station : Station δ)
    (packet : Except EncodeError Bytes) :
    (station.transmitWritten packet).2.sources = station.sources := by
  cases packet with
  | error error => rfl
  | ok bytes => rw [transmitWritten_after, transmit_sources]

end Station

end Telemetry
