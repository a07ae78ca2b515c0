/-
What is found in a packet that was written here. A sealed packet opens with its
own header and channel and with a cursor in front of its payload, so an
advertisement gives back the schema it was written from, and is refused for its
depth alone.
-/

import Telemetry.Channel
import Telemetry.Packet.Open
import Telemetry.Proofs.Part.DataRoundTrip
import Telemetry.Proofs.Part.SchemaRoundTrip

namespace Telemetry.Packet

theorem preamble_ne_nil (packetType : PacketType) (function : PacketFunction) (id : ChannelId)
    (payload : Bytes) : preamble packetType function id ++ payload ≠ [] := by
  intro impossible
  cases impossible

theorem checked_sealed {content : Bytes} (filled : content ≠ []) :
    checked (sealed content) = .ok (.start content) := by
  unfold checked
  rw [validity_sealed filled, body_sealed]

private theorem reads_header (found : Header) : header.Reads [found.toByte] found := by
  have read := (Decoder.reads_byte found.toByte).map Header.ofByte
  rw [Header.ofByte_toByte] at read
  exact read

/-- Where the payload of a packet starts. -/
def payloadStart (packetType : PacketType) (function : PacketFunction) (id : ChannelId)
    (payload : Bytes) : Cursor :=
  ((Cursor.start (preamble packetType function id ++ payload)).advance 1).advance 1

@[simp]
theorem payloadStart_rest (packetType : PacketType) (function : PacketFunction) (id : ChannelId)
    (payload : Bytes) : (payloadStart packetType function id payload).rest = payload := rfl

private theorem header_start (packetType : PacketType) (function : PacketFunction) (id : ChannelId)
    (payload : Bytes) :
    header (.start (preamble packetType function id ++ payload)) =
      (.ok ⟨packetType, function⟩,
        (Cursor.start (preamble packetType function id ++ payload)).advance 1) :=
  reads_header ⟨packetType, function⟩ _ (id :: payload) rfl

private theorem id_afterHeader (packetType : PacketType) (function : PacketFunction)
    (id : ChannelId) (payload : Bytes) :
    Decoder.byte ((Cursor.start (preamble packetType function id ++ payload)).advance 1) =
      (.ok id, payloadStart packetType function id payload) :=
  Decoder.reads_byte id _ payload rfl

theorem opened?_sealed (packetType : PacketType) (function : PacketFunction) (id : ChannelId)
    (payload : Bytes) :
    opened? (sealed (preamble packetType function id ++ payload)) =
      .ok ⟨⟨packetType, function⟩, id, payloadStart packetType function id payload⟩ := by
  unfold opened?
  rw [checked_sealed (preamble_ne_nil packetType function id payload)]
  simp only
  rw [header_start]
  simp only
  rw [id_afterHeader]

theorem opened?_acknowledge (id : ChannelId) :
    opened? (acknowledge id) =
      .ok ⟨⟨.broadcast, .acknowledge⟩, id, payloadStart .broadcast .acknowledge id []⟩ := by
  have opens := opened?_sealed .broadcast .acknowledge id []
  rw [List.append_nil] at opens
  exact opens

theorem carrying_eq_ok_iff {packetType : PacketType} {id : ChannelId} {items : List WireItem}
    {packet : Bytes} :
    carrying packetType id items = .ok packet ↔
      ∃ payload, WireItem.encode items = .ok payload ∧
        packet = sealed (preamble packetType .send id ++ payload) := by
  unfold carrying
  cases encoded : WireItem.encode items with
  | error error => simp [Except.map]
  | ok payload =>
      simp only [Except.map, Except.ok.injEq]
      constructor
      · intro same
        exact ⟨payload, rfl, same.symm⟩
      · rintro ⟨other, sameBytes, same⟩
        rw [same, sameBytes]

theorem broadcast_eq_ok_iff {id : ChannelId} {tree : Part} {packet : Bytes} :
    broadcast id tree = .ok packet ↔
      (∀ name ∈ tree.names, WireItem.isPlain name = true) ∧
        packet = sealed (preamble .broadcast .send id ++ tree.schemaBytes) := by
  rw [broadcast, carrying_eq_ok_iff]
  simp [Part.encode_schemaItems_eq_ok_iff, and_assoc]

theorem broadcast_eq_ok {id : ChannelId} {tree : Part}
    (plain : ∀ name ∈ tree.names, WireItem.isPlain name = true) :
    broadcast id tree = .ok (sealed (preamble .broadcast .send id ++ tree.schemaBytes)) :=
  broadcast_eq_ok_iff.mpr ⟨plain, rfl⟩

theorem data_eq_ok_iff {id : ChannelId} {tree : Part} {packet : Bytes} :
    data id tree = .ok packet ↔
      Part.PlainTexts tree.values ∧
        packet = sealed (preamble .data .send id ++ tree.dataBytes) := by
  rw [data, carrying_eq_ok_iff]
  simp [Part.encode_dataItems_eq_ok_iff, and_assoc]

theorem data_of_plain {tree : Part} (plain : Part.PlainTexts tree.values) (id : ChannelId) :
    ∃ packet, data id tree = .ok packet :=
  ⟨_, data_eq_ok_iff.mpr ⟨plain, rfl⟩⟩

theorem opened?_of_data {id : ChannelId} {tree : Part} {packet : Bytes}
    (written : data id tree = .ok packet) :
    opened? packet =
      .ok ⟨⟨.data, .send⟩, id, payloadStart .data .send id tree.dataBytes⟩ := by
  rw [(data_eq_ok_iff.mp written).2, opened?_sealed]

theorem finished_of_rest_nil {cursor : Cursor} (here : cursor.rest = []) :
    Decoder.finished cursor = (.ok (), cursor) := by
  have left : cursor.remaining = 0 := by rw [← Cursor.rest_length, here, List.length_nil]
  unfold Decoder.finished
  rw [if_pos left]

theorem schemaPayload_of_shallow {tree : Part} {cursor : Cursor}
    (plain : ∀ name ∈ tree.names, WireItem.isPlain name = true)
    (countable : ∀ count ∈ tree.fieldCounts, count < 256 ^ Decoder.countSize)
    (shallow : tree.height ≤ Part.maxDepth) (here : cursor.rest = tree.schemaBytes) :
    (schemaPayload cursor).1 = .ok tree.blank := by
  rw [← List.append_nil tree.schemaBytes] at here
  have within := Nat.lt_succ_of_le shallow
  have read := Part.reads_schema tree (Part.maxDepth + 1) plain countable within cursor [] here
  have atEnd := finished_of_rest_nil (Cursor.rest_advance_append here)
  unfold schemaPayload Part.readSchema
  rw [Decoder.bind_apply, read]
  simp only
  rw [Decoder.bind_apply, atEnd]
  rfl

theorem schemaPayload_of_deep {tree : Part} {cursor : Cursor}
    (plain : ∀ name ∈ tree.names, WireItem.isPlain name = true)
    (countable : ∀ count ∈ tree.fieldCounts, count < 256 ^ Decoder.countSize)
    (deep : Part.maxDepth < tree.height) (here : cursor.rest = tree.schemaBytes) :
    (schemaPayload cursor).1 = .error (.tooDeep Part.maxDepth) := by
  have rejects := Part.rejects_schema tree (Part.maxDepth + 1) plain countable deep
  have all := rejects.bind (fun read => do Decoder.finished; pure read) []
  rw [List.append_nil] at all
  rw [← List.append_nil tree.schemaBytes] at here
  exact all cursor [] here

theorem readBroadcast_sealed (id : ChannelId) (payload : Bytes) :
    readBroadcast (sealed (preamble .broadcast .send id ++ payload)) =
      (schemaPayload (payloadStart .broadcast .send id payload)).1.map fun tree => (id, tree) := by
  unfold readBroadcast
  rw [checked_sealed (preamble_ne_nil .broadcast .send id payload)]
  simp only
  unfold advertised
  rw [Decoder.bind_apply, header_start]
  simp only
  rw [if_neg (fun different => different rfl), Decoder.bind_apply, id_afterHeader]
  simp only
  rw [Decoder.bind_apply]
  cases schemaPayload (payloadStart .broadcast .send id payload) with
  | mk outcome after => cases outcome <;> rfl

/-- Writing the advertisement of a channel always succeeds, whatever its last packet
was. Reading it gives the channel's number and a tree of its schema that holds
nothing, unless a node lies more than 32 levels below the root. -/
theorem readBroadcast_broadcastPacket (channel : Channel)
    (plain : ∀ name ∈ channel.tree.names, WireItem.isPlain name = true)
    (countable : ∀ count ∈ channel.tree.fieldCounts, count < 2 ^ (32 : Nat)) :
    ∃ packet, channel.broadcastPacket = (.ok packet, { channel with scratch := packet }) ∧
      (channel.tree.height ≤ 32 →
        ∃ tree, readBroadcast packet = .ok (channel.id, tree) ∧
          tree.sameSchema channel.tree = true ∧
          (∀ value ∈ tree.values, value.isUnset = true) ∧
          tree.sourceIds = []) ∧
      (32 < channel.tree.height → readBroadcast packet = .error (.tooDeep 32)) := by
  refine ⟨sealed (preamble .broadcast .send channel.id ++ channel.tree.schemaBytes), ?_, ?_, ?_⟩
  · unfold Channel.broadcastPacket
    rw [broadcast_eq_ok plain]
    rfl
  · intro shallow
    have here := payloadStart_rest .broadcast .send channel.id channel.tree.schemaBytes
    have payload := schemaPayload_of_shallow plain countable shallow here
    refine ⟨channel.tree.blank, ?_, ?_, Part.blank_values channel.tree,
      Part.blank_sourceIds channel.tree⟩
    · rw [readBroadcast_sealed, payload]
      rfl
    · exact (Part.sameSchema_iff_blank _ _).mpr (Part.blank_blank channel.tree)
  · intro deep
    have here := payloadStart_rest .broadcast .send channel.id channel.tree.schemaBytes
    have payload := schemaPayload_of_deep plain countable deep here
    rw [readBroadcast_sealed, payload]
    rfl

/-- A text below 32 records comes back, and below 33 it is refused. -/
theorem readBroadcast_broadcastPacket_nested :
    let nested := fun levels =>
      Nat.repeat (fun part => Part.record "r" [part]) levels (Part.text "s" "on" (some 1))
    let channel := fun levels => Channel.mk 7 (nested levels) true [1, 2, 3]
    (∀ levels ∈ [32, 33],
      (∀ name ∈ (nested levels).names, WireItem.isPlain name = true) ∧
      (∀ count ∈ (nested levels).fieldCounts, count < 2 ^ (32 : Nat))) ∧
    (∃ packet tree, (channel 32).broadcastPacket.1 = .ok packet ∧
      readBroadcast packet = .ok (7, tree) ∧ tree.sameSchema (nested 32) = true) ∧
    (∃ packet, (channel 33).broadcastPacket.1 = .ok packet ∧
      readBroadcast packet = .error (.tooDeep 32)) := by
  intro nested channel
  have fits : ∀ levels ∈ [32, 33],
      (∀ name ∈ (nested levels).names, WireItem.isPlain name = true) ∧
      (∀ count ∈ (nested levels).fieldCounts, count < 2 ^ (32 : Nat)) := by
    decide
  obtain ⟨plain, countable⟩ := fits 32 (by decide)
  obtain ⟨packet, written, shallow, _⟩ := readBroadcast_broadcastPacket (channel 32) plain countable
  obtain ⟨tree, read, same, _⟩ := shallow (by decide +kernel)
  obtain ⟨plainDeep, countableDeep⟩ := fits 33 (by decide)
  obtain ⟨deepPacket, deepWritten, _, deep⟩ :=
    readBroadcast_broadcastPacket (channel 33) plainDeep countableDeep
  refine ⟨fits, ⟨packet, tree, ?_, read, same⟩, ⟨deepPacket, ?_, deep (by decide +kernel)⟩⟩
  · rw [written]
  · rw [deepWritten]

end Telemetry.Packet
