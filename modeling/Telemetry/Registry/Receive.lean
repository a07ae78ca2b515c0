/-
What a registry does with a packet that comes in.

An advertisement stores the channel it describes, with empty values. If data had
come in before, the peer has started over, and everything it advertised earlier
is forgotten first. A data packet fills the channel it names, all of it or none
of it. An acknowledgement marks the opened channel it names. A packet that is
not valid, or does not fit what is known, changes nothing.

Values that are submitted here take the same way as values that come in.
-/

import Telemetry.Packet.Open
import Telemetry.Registry

namespace Telemetry

inductive Event where
  | schemaLearned (id : ChannelId)
  | dataReceived (id : ChannelId)
  | acknowledged (id : ChannelId)
  /-- A valid packet that asks for nothing. -/
  | ignored
  deriving DecidableEq, Repr

def Event.text : Event → String
  | .schemaLearned id => "SchemaLearned(" ++ toString id.toNat ++ ")"
  | .dataReceived id => "DataReceived(" ++ toString id.toNat ++ ")"
  | .acknowledged id => "Acknowledged(" ++ toString id.toNat ++ ")"
  | .ignored => "Ignored"

/-- An event, with the channel it leaves behind if it was learned or filled. -/
structure Reception where
  event : Event
  snapshot : Option Channel := none

namespace Registry

/-- A peer that advertises after it sent data has started over. -/
def startOver (registry : Registry) : Registry :=
  if registry.dataMode then { registry with remote := .empty, dataMode := false } else registry

@[simp]
theorem startOver_acknowledges (registry : Registry) :
    registry.startOver.acknowledges = registry.acknowledges := by
  unfold startOver
  split <;> rfl

@[simp]
theorem startOver_opened (registry : Registry) : registry.startOver.opened = registry.opened := by
  unfold startOver
  split <;> rfl

@[simp]
theorem startOver_dataMode (registry : Registry) : registry.startOver.dataMode = false := by
  unfold startOver
  split
  · rfl
  · next settled => exact Bool.not_eq_true _ ▸ settled

end Registry

namespace Station

variable {δ : Type}

/-- Stores an advertised channel, and answers if this registry does. Whether the
answer is taken makes no difference. -/
def learn [Device δ] (station : Station δ) (id : ChannelId) (tree : Part) :
    Channel × Station δ :=
  let fresh := Channel.new id tree
  let begun := station.withRegistry station.registry.startOver
  if station.registry.acknowledges then
    let (packet, answered) := fresh.acknowledgePacket
    let after := (begun.transmit packet).2
    (answered, after.withRegistry (after.registry.setRemote id answered))
  else (fresh, begun.withRegistry (begun.registry.setRemote id fresh))

def receiveBroadcast [Device δ] (station : Station δ) (id : ChannelId) (payload : Cursor) :
    Except RegistryError Reception × Station δ :=
  match (Packet.schemaPayload payload).1 with
  | .error error => (.error (.decode error), station)
  | .ok tree =>
      let (channel, after) := station.learn id tree
      (.ok ⟨.schemaLearned id, some channel⟩, after)

/-- The tree filled with a payload that holds its values and nothing else. -/
def fill (tree : Part) (payload : Cursor) : Except DecodeError Part :=
  let filled := tree.readData payload
  match filled.outcome with
  | .error error => .error error
  | .ok _ =>
      match (Decoder.finished filled.cursor).1 with
      | .error error => .error error
      | .ok _ => .ok filled.tree

/-- Fills a channel of the peer. With a tree to expect, its schema must be that of
the channel. -/
def receiveData (station : Station δ) (id : ChannelId) (payload : Cursor)
    (expected : Option Part) : Except RegistryError Reception × Station δ :=
  match station.registry.remote.get? id with
  | none => (.error (.unknownChannel id), station)
  | some stored =>
      if expected.all stored.tree.sameSchema then
        match fill stored.tree payload with
        | .error error => (.error (.decode error), station)
        | .ok tree =>
            let channel := { stored with tree }
            let registry := { station.registry.setRemote id channel with dataMode := true }
            (.ok ⟨.dataReceived id, some channel⟩, station.withRegistry registry)
      else (.error (.schemaMismatch id), station)

def receiveAcknowledge (station : Station δ) (id : ChannelId) :
    Except RegistryError Reception × Station δ :=
  match station.registry.opened? id with
  | none => (.error (.unknownChannel id), station)
  | some channel =>
      (.ok ⟨.acknowledged id, none⟩,
        station.withRegistry (station.registry.setOpened id { channel with acked := true }))

def receive [Device δ] (station : Station δ) (packet : Bytes) :
    Except RegistryError Reception × Station δ :=
  match Packet.opened? packet with
  | .error error => (.error (.decode error), station)
  | .ok opened =>
      match opened.header.packetType, opened.header.function with
      | .broadcast, .send => station.receiveBroadcast opened.id opened.payload
      | .data, .send => station.receiveData opened.id opened.payload none
      | .broadcast, .acknowledge => station.receiveAcknowledge opened.id
      | .data, .acknowledge => (.ok ⟨.ignored, none⟩, station)

/-- Takes in values as if the peer had sent them for its channel. -/
def submit (station : Station δ) (id : ChannelId) (values : Part) :
    Except RegistryError Reception × Station δ :=
  match Packet.data id values with
  | .error error => (.error (.encode error), station)
  | .ok packet =>
      match Packet.opened? packet with
      | .error error => (.error (.decode error), station)
      | .ok opened => station.receiveData opened.id opened.payload (some values)

end Station

end Telemetry
