/-
What a registry does of its own accord: opening channels, advertising them and
sending their values, and, for a channel of the peer, acknowledging it or
sending back the values it holds.

Advertising and sending first refresh the channel from its sources. What they
bring is kept whether or not a packet can be written of it and is taken.
-/

import Telemetry.Registry

namespace Telemetry.Station

variable {δ : Type}

def openChannel (station : Station δ) (tree : Part) : Except RegistryError ChannelId × Station δ :=
  let count := station.registry.opened.length
  if count < Registry.maxChannels then
    let id := UInt8.ofNat count
    let opened := station.registry.opened ++ [Channel.new id tree]
    (.ok id, station.withRegistry { station.registry with opened })
  else (.error (.tooManyChannels Registry.maxChannels), station)

def sendOpened [Device δ] (write : Channel → Except EncodeError Bytes × Channel)
    (station : Station δ) (id : ChannelId) : Except RegistryError Unit × Station δ :=
  match station.registry.opened? id with
  | none => (.error (.unknownChannel id), station)
  | some channel =>
      let (fetched, sources) := channel.fetch station.sources
      let (packet, written) := write fetched
      let registry := station.registry.setOpened id written
      { station with registry, sources }.transmitWritten packet

def broadcastChannel [Device δ] (station : Station δ) (id : ChannelId) :
    Except RegistryError Unit × Station δ :=
  station.sendOpened Channel.broadcastPacket id

def sendData [Device δ] (station : Station δ) (id : ChannelId) :
    Except RegistryError Unit × Station δ :=
  station.sendOpened Channel.dataPacket id

def broadcastEach [Device δ] (station : Station δ) :
    List ChannelId → Except RegistryError Unit × Station δ
  | [] => (.ok (), station)
  | id :: rest =>
      match station.broadcastChannel id with
      | (.ok _, after) => after.broadcastEach rest
      | (.error error, after) => (.error error, after)

def broadcastAll [Device δ] (station : Station δ) : Except RegistryError Unit × Station δ :=
  station.broadcastEach station.registry.openedIds

/-- Advertises every channel the peer has not acknowledged, and counts them. -/
def broadcastUnacked [Device δ] (station : Station δ) : Except RegistryError Nat × Station δ :=
  let unacked := station.registry.ackedIds false
  let (outcome, after) := station.broadcastEach unacked
  (outcome.map fun _ => unacked.length, after)

def sendRemote [Device δ] (write : Channel → Except EncodeError Bytes × Channel)
    (station : Station δ) (id : ChannelId) : Except RegistryError Unit × Station δ :=
  match station.registry.remote.get? id with
  | none => (.error (.unknownChannel id), station)
  | some channel =>
      let (packet, written) := write channel
      (station.withRegistry (station.registry.setRemote id written)).transmitWritten packet

/-- Tells the peer that the schema of its channel has been learned. -/
def acknowledge [Device δ] (station : Station δ) (id : ChannelId) :
    Except RegistryError Unit × Station δ :=
  station.sendRemote (fun channel => (.ok channel.acknowledgePacket.1, channel.acknowledgePacket.2))
    id

def sendRemoteData [Device δ] (station : Station δ) (id : ChannelId) :
    Except RegistryError Unit × Station δ :=
  station.sendRemote Channel.dataPacket id

/-- Replaces the tree of an opened channel and nothing else of it. -/
def storeTree (station : Station δ) (id : ChannelId) (tree : Part) : Station δ :=
  match station.registry.opened? id with
  | none => station
  | some channel => station.withRegistry (station.registry.setOpened id { channel with tree })

end Telemetry.Station
