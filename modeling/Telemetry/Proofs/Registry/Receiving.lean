/-
What the receiving end of a link makes of packets that were written by the other.
An advertisement is always learned. A data packet for a channel that is not known
is refused and changes nothing; one that was written from a tree with the schema
of its channel always fills it. An acknowledgement goes to the opened channel it
names.
-/

import Telemetry.Proofs.Packet.Contents
import Telemetry.Proofs.Registry.Handing
import Telemetry.Registry.Receive
import Telemetry.Registry.Send

namespace Telemetry

theorem Registry.startOver_get? {registry : Registry} {id : ChannelId} {channel : Channel}
    (kept : registry.startOver.remote.get? id = some channel) :
    registry.remote.get? id = some channel := by
  unfold startOver at kept
  split at kept
  · cases kept
  · exact kept

theorem Registry.startOver_of_settled {registry : Registry}
    (settled : registry.dataMode = false) : registry.startOver = registry := by
  unfold startOver
  rw [settled, if_neg Bool.false_ne_true]

namespace Station

variable {δ : Type} [Device δ]

@[simp]
theorem learn_tree (station : Station δ) (id : ChannelId) (tree : Part) :
    (station.learn id tree).1.tree = tree := by
  unfold learn
  split
  · rfl
  · rfl

theorem learn_remote (station : Station δ) (id : ChannelId) (tree : Part) :
    (station.learn id tree).2.registry.remote =
      station.registry.startOver.remote.insert id (station.learn id tree).1 := by
  unfold learn
  split
  · simp
  · rfl

theorem learn_handed (station : Station (Tapped δ)) (id : ChannelId) (tree : Part) :
    (station.learn id tree).2.handed =
      station.handed ++ (if station.registry.acknowledges then [Packet.acknowledge id] else []) := by
  unfold learn
  split
  · exact transmit_handed _ _
  · exact (List.append_nil station.handed).symm

/-- After an advertisement its channel holds nothing, and any other that is still known
is as it was. -/
theorem learn_get? {station : Station δ} {id wanted : ChannelId} {tree : Part}
    {channel : Channel}
    (known : (station.learn id tree).2.registry.remote.get? wanted = some channel) :
    (wanted = id ∧ channel.tree = tree) ∨ station.registry.remote.get? wanted = some channel := by
  rw [learn_remote, ChannelTable.get?_insert] at known
  by_cases same : wanted = id
  · rw [if_pos same, Option.some.injEq] at known
    left
    constructor
    · exact same
    · rw [← known, learn_tree]
  · rw [if_neg same] at known
    right
    exact Registry.startOver_get? known

theorem receive_broadcast {id : ChannelId} {tree : Part} {packet : Bytes}
    (fit : tree.Advertisable) (written : Packet.broadcast id tree = .ok packet)
    (station : Station δ) :
    station.receive packet =
      (.ok ⟨.schemaLearned id, some (station.learn id tree.blank).1⟩,
        (station.learn id tree.blank).2) := by
  rw [Packet.broadcast_eq_ok fit.plainNames, Except.ok.injEq] at written
  have here := Packet.payloadStart_rest .broadcast .send id tree.schemaBytes
  have payload := Packet.schemaPayload_of_shallow fit.plainNames fit.countable fit.shallow here
  unfold receive
  rw [← written, Packet.opened?_sealed]
  simp only
  unfold receiveBroadcast
  rw [payload]

theorem receive_data {id : ChannelId} {tree : Part} {packet : Bytes}
    (written : Packet.data id tree = .ok packet) (station : Station δ) :
    station.receive packet =
      station.receiveData id (Packet.payloadStart .data .send id tree.dataBytes) none := by
  unfold receive
  rw [Packet.opened?_of_data written]

@[simp]
theorem receive_acknowledge (station : Station δ) (id : ChannelId) :
    station.receive (Packet.acknowledge id) = station.receiveAcknowledge id := by
  unfold receive
  rw [Packet.opened?_acknowledge]

theorem receive_data_unknown {id : ChannelId} {tree : Part} {packet : Bytes}
    (written : Packet.data id tree = .ok packet) {station : Station δ}
    (unknown : station.registry.remote.get? id = none) :
    station.receive packet = (.error (.unknownChannel id), station) := by
  rw [receive_data written]
  unfold receiveData
  rw [unknown]

private theorem fill_dataBytes {written held : Part} (sameSchema : written.blank = held.blank)
    (plain : Part.PlainTexts written.values) {payload : Cursor}
    (here : payload.rest = written.dataBytes) :
    ∃ filled, fill held payload = .ok filled ∧ filled.values = written.values ∧
      filled.clear = held.clear := by
  rw [← List.append_nil written.dataBytes] at here
  have fills := Part.readData_dataBytes written held sameSchema plain payload [] here
  have finished := Packet.finished_of_rest_nil (Cursor.rest_advance_append here)
  refine ⟨(held.readData payload).tree, ?_, fills.values, fills.kept⟩
  unfold fill
  simp only
  rw [fills.outcome, fills.cursor]
  simp only
  rw [finished]

theorem receive_data_known {id : ChannelId} {tree : Part} {packet : Bytes}
    (written : Packet.data id tree = .ok packet) {station : Station δ} {stored : Channel}
    (known : station.registry.remote.get? id = some stored)
    (sameSchema : tree.blank = stored.tree.blank) :
    ∃ filled : Part, filled.values = tree.values ∧ filled.clear = stored.tree.clear ∧
      station.receive packet =
        (.ok ⟨.dataReceived id, some { stored with tree := filled }⟩,
          station.withRegistry
            { station.registry.setRemote id { stored with tree := filled } with
              dataMode := true }) := by
  obtain ⟨plain, _⟩ := Packet.data_eq_ok_iff.mp written
  have here := Packet.payloadStart_rest .data .send id tree.dataBytes
  obtain ⟨filled, fills, values, kept⟩ := fill_dataBytes sameSchema plain here
  refine ⟨filled, values, kept, ?_⟩
  rw [receive_data written]
  unfold receiveData
  rw [known]
  simp only
  rw [if_pos (show Option.all stored.tree.sameSchema none = true from rfl), fills]

theorem acknowledge_known {station : Station (Tapped δ)} {id : ChannelId} {channel : Channel}
    (known : station.registry.remote.get? id = some channel) :
    (station.acknowledge id).2.handed = station.handed ++ [Packet.acknowledge channel.id] ∧
      (station.acknowledge id).2.registry.remote =
        station.registry.remote.insert id channel.acknowledgePacket.2 := by
  unfold acknowledge sendRemote
  rw [known]
  constructor
  · exact transmitWritten_handed _ _
  · simp only [transmitWritten_registry]
    rfl

theorem acknowledge_unknown {station : Station δ} {id : ChannelId}
    (unknown : station.registry.remote.get? id = none) :
    (station.acknowledge id).2 = station := by
  unfold acknowledge sendRemote
  rw [unknown]

end Station

end Telemetry
