/-
A channel: its number, its tree, whether the peer is known to have learned it,
and the last packet written from it. Writing replaces that packet, and leaves
none behind when the tree cannot be written.

Two channels are equal if number and tree are. What was written or acknowledged
does not count.
-/

import Telemetry.Packet.Write
import Telemetry.Part.Outline
import Telemetry.Part.Source

namespace Telemetry

structure Channel where
  id : ChannelId
  tree : Part
  acked : Bool := false
  /-- The packet written last, if it could be written. -/
  scratch : Bytes := []
  deriving Repr

namespace Channel

def new (id : ChannelId) (tree : Part) : Channel := { id, tree }

def equal (left right : Channel) : Bool := left.id == right.id && left.tree.equal right.tree

def fetch (channel : Channel) (sources : Sources) : Channel × Sources :=
  let (tree, after) := channel.tree.fetch sources
  ({ channel with tree }, after)

def keep (channel : Channel) (packet : Except EncodeError Bytes) :
    Except EncodeError Bytes × Channel :=
  (packet, { channel with scratch := packet.toOption.getD [] })

section Fields

variable (channel : Channel) (packet : Except EncodeError Bytes)

end Fields

def broadcastPacket (channel : Channel) : Except EncodeError Bytes × Channel :=
  channel.keep (Packet.broadcast channel.id channel.tree)

def dataPacket (channel : Channel) : Except EncodeError Bytes × Channel :=
  channel.keep (Packet.data channel.id channel.tree)

def acknowledgePacket (channel : Channel) : Bytes × Channel :=
  let packet := Packet.acknowledge channel.id
  (packet, { channel with scratch := packet })

section Acknowledgement

variable (channel : Channel)

end Acknowledgement

def outline (channel : Channel) : Outline :=
  .structured "Channel"
    [("id", .number channel.id.toNat), ("data", channel.tree.outline),
      ("acked", .flag channel.acked),
      ("packet_scratch_space",
        .list (channel.scratch.map fun byte => .number byte.toNat))]

end Channel

end Telemetry
