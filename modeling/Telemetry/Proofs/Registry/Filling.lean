/-
When values are taken in. A data packet for a channel that is known is accepted exactly
if its payload splits into one item for each leaf of the stored tree. The tree then
holds what the items say, keeps its schema, and is stored before any callback runs. If
the texts among the items were valid, sending the tree back sends the same payload.

The six low bits of the header byte make no difference.
-/

import Telemetry.Proofs.Part.Splitting
import Telemetry.Proofs.Registry.Outcome

namespace Telemetry

namespace Packet

/-- A sealed packet opens whatever its header byte is. -/
private theorem opened?_sealed_cons (head : UInt8) (id : ChannelId) (payload : Bytes) :
    ∃ cursor, opened? (sealed (head :: id :: payload)) =
        .ok ⟨Header.ofByte head, id, cursor⟩ ∧ cursor.rest = payload := by
  refine ⟨((Cursor.start (head :: id :: payload)).advance 1).advance 1, ?_, rfl⟩
  unfold opened?
  rw [checked_sealed (List.cons_ne_nil head (id :: payload))]
  rfl

end Packet

namespace Station

open Telemetry.Part (Splits)
open Telemetry.Part.LeafValue (taking ValidText)

variable {δ : Type} [Device δ] {station : Station δ} {id : ChannelId} {stored : Channel}
  {head : UInt8} {payload : Bytes}

private theorem receive_data_eq (known : station.registry.remote.get? id = some stored)
    (isData : Header.ofByte head = ⟨.data, .send⟩) (payload : Bytes) :
    ∃ cursor, cursor.rest = payload ∧
      station.receive (Packet.sealed (head :: id :: payload)) =
        match fill stored.tree cursor with
        | .error error => (.error (.decode error), station)
        | .ok tree =>
            (.ok ⟨.dataReceived id, some { stored with tree }⟩,
              station.withRegistry (station.registry.fillRemote id { stored with tree })) := by
  obtain ⟨cursor, opens, here⟩ := Packet.opened?_sealed_cons head id payload
  refine ⟨cursor, here, ?_⟩
  unfold receive
  rw [opens, isData]
  simp only
  unfold receiveData
  rw [known]
  simp only
  rw [if_pos (show Option.all stored.tree.sameSchema none = true from rfl)]
  rfl

theorem receive_data_of_splits (known : station.registry.remote.get? id = some stored)
    (isData : Header.ofByte head = ⟨.data, .send⟩) {items : List Bytes}
    (splits : Splits stored.tree.values payload items) :
    ∃ tree : Part, tree.clear = stored.tree.clear ∧
      tree.values = List.zipWith taking stored.tree.values items ∧
      station.receive (Packet.sealed (head :: id :: payload)) =
        (.ok ⟨.dataReceived id, some { stored with tree }⟩,
          station.withRegistry (station.registry.fillRemote id { stored with tree })) := by
  obtain ⟨cursor, here, receives⟩ := receive_data_eq known isData payload
  rw [← here] at splits
  obtain ⟨tree, fills, kept, values⟩ := fill_of_splits splits
  rw [fills] at receives
  exact ⟨tree, kept, values, receives⟩

theorem receive_data_of_not_splits (known : station.registry.remote.get? id = some stored)
    (isData : Header.ofByte head = ⟨.data, .send⟩)
    (apart : ¬ ∃ items, Splits stored.tree.values payload items) :
    ∃ error, station.receive (Packet.sealed (head :: id :: payload)) =
      (.error (.decode error), station) := by
  obtain ⟨cursor, here, receives⟩ := receive_data_eq known isData payload
  cases fills : fill stored.tree cursor with
  | error error =>
      rw [fills] at receives
      exact ⟨error, receives⟩
  | ok tree =>
      obtain ⟨items, splits, _⟩ := splits_of_fill fills
      rw [here] at splits
      exact absurd ⟨items, splits⟩ apart

end Station

open Telemetry.Part (Splits)
open Telemetry.Part.LeafValue (taking ValidText)

/-- Values that were taken in, written again. -/
theorem Part.encode_of_splits {tree : Part} {leaves : List LeafValue} {payload : Bytes}
    {items : List Bytes} (splits : Splits leaves payload items)
    (values : tree.values = List.zipWith taking leaves items)
    (valid : List.Forall₂ ValidText leaves items) :
    WireItem.encode tree.dataItems = .ok payload := by
  rw [dataItems_eq_map, values, WireItem.encode_eq_ok_iff]
  refine ⟨taking_all_isWritable splits.fits, ?_⟩
  rw [taking_all_toBytes splits.fits valid, splits.whole]

namespace Node

variable {δ ρ : Type} [Device δ]

/-- A data packet for a known channel is accepted exactly if its payload splits, and otherwise
refused without a trace. Once it is accepted the channel holds what the items say, under its
old schema, and writing that gives the payload back if its texts were valid. Then the callback
runs, if there is one. -/
theorem data_acceptance {node : Node δ ρ} {id : ChannelId} {stored : Channel} {head : UInt8}
    (known : node.station.registry.remote.get? id = some stored)
    (isData : Header.ofByte head = ⟨.data, .send⟩) (payload : Bytes) :
    let packet := Packet.sealed (head :: id :: payload)
    let leaves := stored.tree.values
    let received := node.run (.receive packet)
    (received.1 = .event (.dataReceived id) ↔ ∃ items, Splits leaves payload items) ∧
    ((¬ ∃ items, Splits leaves payload items) →
      ∃ error, received = (.failed (.decode error), node)) ∧
    ∀ items, Splits leaves payload items →
      ∃ tree : Part,
        let after := (node.station.receive packet).2
        after.registry.remote.get? id = some { stored with tree } ∧
        tree.sameSchema stored.tree = true ∧
        tree.values = List.zipWith taking leaves items ∧
        (List.Forall₂ ValidText leaves items → WireItem.encode tree.dataItems = .ok payload) ∧
        received.2 =
          Node.react occasionCount .data { stored with tree } (node.withStation after) := by
  intro packet leaves received
  have refused : (¬ ∃ items, Splits leaves payload items) →
      ∃ error, received = (.failed (.decode error), node) := by
    intro apart
    obtain ⟨error, receives⟩ := Station.receive_data_of_not_splits known isData apart
    refine ⟨error, ?_⟩
    unfold received
    rw [run_receive_eq, receives]
    rfl
  refine ⟨⟨?_, ?_⟩, refused, ?_⟩
  · intro accepted
    by_contra apart
    obtain ⟨error, failed⟩ := refused apart
    rw [failed] at accepted
    cases accepted
  · rintro ⟨items, splits⟩
    obtain ⟨tree, _, _, receives⟩ := Station.receive_data_of_splits known isData splits
    unfold received
    rw [run_receive_answer, receives]
    rfl
  · intro items splits
    obtain ⟨tree, kept, values, receives⟩ := Station.receive_data_of_splits known isData splits
    refine ⟨tree, ?_, ?_, values, Part.encode_of_splits splits values, ?_⟩
    · rw [receives]
      exact (ChannelTable.get?_insert _ _ _ _).trans (if_pos rfl)
    · exact (Part.sameSchema_iff_blank _ _).mpr (Part.blank_eq_of_clear_eq kept)
    · unfold received
      rw [run_receive_eq, receives]
      rfl

/-- A number and a text, with a record that holds nothing between them, behind a header
byte whose lowest bit is set. -/
theorem data_acceptance_around_nothing :
    let schema := Part.record "m" [.number "v" (.zero .uint16) none, .record "e" [],
      .record "n" [.text "s" "" none]]
    let payload : Bytes := [0x34, 0x12, 0x6F, 0x6E, 0]
    let packet := Packet.sealed (0x81 :: 7 :: payload)
    let registry : Registry := { remote := .insert .empty 7 (.new 7 schema) }
    let node : Node MemoryDevice Unit :=
      { station := { registry, sources := .empty, device := .sound } }
    (node.run (.receive packet)).1 = .event (.dataReceived 7) ∧
      ∃ tree : Part,
        (node.station.receive packet).2.registry.remote.get? 7 = some (.new 7 tree) ∧
        tree.values = [.number (.ofPattern .uint16 0x1234), .text "on"] ∧
        WireItem.encode tree.dataItems = .ok payload := by
  intro schema payload packet registry node
  have known : node.station.registry.remote.get? 7 = some (.new 7 schema) := rfl
  have isData : Header.ofByte 0x81 = ⟨.data, .send⟩ := by decide
  let items : List Bytes := [[0x34, 0x12], [0x6F, 0x6E, 0]]
  have number : (Part.LeafValue.number (.zero .uint16)).Fits [0x34, 0x12] := rfl
  have text : (Part.LeafValue.text "").Fits [0x6F, 0x6E, 0] :=
    ⟨[0x6F, 0x6E], by decide, rfl⟩
  have splits : Splits schema.values payload items :=
    ⟨.cons number (.cons text .nil), rfl⟩
  have valid : List.Forall₂ ValidText schema.values items :=
    .cons trivial (.cons ⟨['o', 'n'], by decide⟩ .nil)
  obtain ⟨accepts, _, takes⟩ := data_acceptance known isData payload
  obtain ⟨tree, stored, _, values, again, _⟩ := takes items splits
  refine ⟨accepts.mpr ⟨items, splits⟩, tree, stored, ?_, again valid⟩
  rw [values]
  decide +kernel

end Node

end Telemetry
