/-
Packets as they are written, item after item, into the buffer that a channel keeps for all
its packets. The buffer is emptied in front of a packet and not before, and a text that
cannot be written stops the writer with the buffer as it is then. So it is emptied once more
when the payload of a packet has failed. The seal is taken of whatever the buffer holds.
-/

import Telemetry.Channel

namespace Telemetry

/-- What is done to a buffer. A failure does not undo what was written before. -/
abbrev PacketWriter := ExceptT EncodeError (StateM Bytes)

namespace PacketWriter

def on {α : Type} (writer : PacketWriter α) (buffer : Bytes) : Except EncodeError α × Bytes :=
  StateT.run (ExceptT.run writer) buffer

def put (bytes : Bytes) : PacketWriter Unit := modify fun buffer => buffer ++ bytes

def putText (content : String) : PacketWriter Unit :=
  if (Utf8.encode content).contains zeroByte then throw (.embeddedNul content)
  else do
    put (Utf8.encode content)
    put [zeroByte]

mutual

def putSchema : Part → PacketWriter Unit
  | .record name fields => do
      put [WireType.record.tag]
      putText name
      put (littleEndian Decoder.countSize fields.length)
      putSchemas fields
  | .text name _ _ => do
      put [WireType.text.tag]
      putText name
  | .number name value _ => do
      put [(WireType.number value.kind).tag]
      putText name

def putSchemas : List Part → PacketWriter Unit
  | [] => pure ()
  | part :: rest => do
      putSchema part
      putSchemas rest

end

mutual

def putData : Part → PacketWriter Unit
  | .record _ fields => putDatas fields
  | .text _ value _ => putText value
  | .number _ value _ => put value.toBytes

def putDatas : List Part → PacketWriter Unit
  | [] => pure ()
  | part :: rest => do
      putData part
      putDatas rest

end

def clear : PacketWriter Unit := set ([] : Bytes)

def preamble (packetType : PacketType) (function : PacketFunction) (id : ChannelId) :
    PacketWriter Unit := do
  clear
  put [Header.toByte ⟨packetType, function⟩]
  put [id]

def putSeal : PacketWriter Unit := do
  let written ← get
  put (Checksum.trailer written)

/-- A packet with this payload. If that fails, nothing is left of the packet. -/
def carrying (packetType : PacketType) (id : ChannelId) (payload : PacketWriter Unit) :
    PacketWriter Unit := do
  preamble packetType .send id
  try payload
  catch error => do
    clear
    throw error
  putSeal

def broadcast (id : ChannelId) (tree : Part) : PacketWriter Unit :=
  carrying .broadcast id (putSchema tree)

def data (id : ChannelId) (tree : Part) : PacketWriter Unit :=
  carrying .data id (putData tree)

def acknowledge (id : ChannelId) : PacketWriter Unit := do
  preamble .broadcast .acknowledge id
  putSeal

end PacketWriter

namespace Channel

inductive PacketKind where
  | broadcast
  | data
  | acknowledge
  deriving DecidableEq, Repr

def writer (channel : Channel) : PacketKind → PacketWriter Unit
  | .broadcast => .broadcast channel.id channel.tree
  | .data => .data channel.id channel.tree
  | .acknowledge => .acknowledge channel.id

/-- The packet of this kind, in whatever buffer it is written. -/
def PacketKind.packet (id : ChannelId) (tree : Part) : PacketKind → Except EncodeError Bytes
  | .broadcast => Packet.broadcast id tree
  | .data => Packet.data id tree
  | .acknowledge => .ok (Packet.acknowledge id)

/-- Writes over what the last packet left in the buffer. The packet is what is in the buffer
then. -/
def write (channel : Channel) (kind : PacketKind) : Except EncodeError Bytes × Channel :=
  let (outcome, buffer) := (channel.writer kind).on channel.scratch
  (outcome.map fun _ => buffer, { channel with scratch := buffer })

/-- A packet to write, and what the channel holds by then. -/
structure Order where
  kind : PacketKind
  tree : Part
  acked : Bool
  deriving Repr

/-- What comes of every order, and what it leaves in the buffer. -/
def writeAll (channel : Channel) : List Order → List (Except EncodeError Bytes × Bytes)
  | [] => []
  | order :: rest =>
      let (packet, after) :=
        { channel with tree := order.tree, acked := order.acked }.write order.kind
      (packet, after.scratch) :: after.writeAll rest

end Channel

end Telemetry
