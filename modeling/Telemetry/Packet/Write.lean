/-
The three packets a registry sends. Each is a header byte, the number of a
channel, a payload and the seal. An advertisement carries the schema of the
channel, a data packet its values, an acknowledgement nothing.

A packet depends on the channel's number and tree alone, and there is none if
the payload holds a text that cannot be written.
-/

import Telemetry.Packet.Seal
import Telemetry.Part.Data
import Telemetry.Part.Schema

namespace Telemetry.Packet

def preamble (packetType : PacketType) (function : PacketFunction) (id : ChannelId) : Bytes :=
  [Header.toByte ⟨packetType, function⟩, id]

/-- A packet with this payload, or what keeps the payload from being written. -/
def carrying (packetType : PacketType) (id : ChannelId) (payload : List WireItem) :
    Except EncodeError Bytes :=
  (WireItem.encode payload).map fun bytes => sealed (preamble packetType .send id ++ bytes)

def broadcast (id : ChannelId) (tree : Part) : Except EncodeError Bytes :=
  carrying .broadcast id tree.schemaItems

def data (id : ChannelId) (tree : Part) : Except EncodeError Bytes :=
  carrying .data id tree.dataItems

def acknowledge (id : ChannelId) : Bytes :=
  sealed (preamble .broadcast .acknowledge id)

end Telemetry.Packet
