/-
All that can come of a packet. It is refused, and then nothing has happened; or it has
been read to its end, and what it says is done at once. Nothing lies in between,
however deep inside the packet the fault is.

Values that are submitted here come to the same as a packet that carries them.
-/

import Telemetry.Device.Memory
import Telemetry.Proofs.Packet.Contents
import Telemetry.Proofs.Registry.Handing
import Telemetry.Proofs.Registry.Quiet

namespace Telemetry

private theorem Packet.readBroadcast_of_opened? {packet : Bytes} {id : ChannelId} {payload : Cursor}
    (opened : opened? packet = .ok ⟨⟨.broadcast, .send⟩, id, payload⟩) :
    readBroadcast packet = (schemaPayload payload).1.map fun tree => (id, tree) := by
  unfold opened? at opened
  unfold readBroadcast
  cases sound : checked packet with
  | error error =>
      rw [sound] at opened
      cases opened
  | ok cursor =>
      rw [sound] at opened
      simp only at opened
      split at opened
      · cases opened
      · next found afterHeader read =>
          split at opened
          · cases opened
          · next number afterId numbered =>
              cases opened
              simp only [advertised]
              rw [Decoder.bind_apply, read]
              simp only
              rw [if_neg (fun different => different rfl), Decoder.bind_apply, numbered]
              simp only
              rw [Decoder.bind_apply]
              cases schemaPayload payload with
              | mk outcome last => cases outcome <;> rfl

namespace Registry

/-- A known channel holds these values now, and its peer has sent data. -/
def fillRemote (registry : Registry) (id : ChannelId) (channel : Channel) : Registry :=
  { registry.setRemote id channel with dataMode := true }

end Registry

namespace Station

variable {δ : Type} [Device δ]

inductive Outcome (station : Station δ) (packet : Bytes) :
    Except RegistryError Reception × Station δ → Prop where
  | refused (error : RegistryError) : Outcome station packet (.error error, station)
  | learned (id : ChannelId) (tree : Part) (read : Packet.readBroadcast packet = .ok (id, tree)) :
      Outcome station packet
        (.ok ⟨.schemaLearned id, some (station.learn id tree).1⟩, (station.learn id tree).2)
  | filled (id : ChannelId) (payload : Cursor) (stored : Channel) (tree : Part)
      (opened : Packet.opened? packet = .ok ⟨⟨.data, .send⟩, id, payload⟩)
      (known : station.registry.remote.get? id = some stored)
      (fills : fill stored.tree payload = .ok tree) :
      Outcome station packet
        (.ok ⟨.dataReceived id, some { stored with tree }⟩,
          station.withRegistry (station.registry.fillRemote id { stored with tree }))
  | acknowledged (id : ChannelId) (payload : Cursor) (channel : Channel)
      (opened : Packet.opened? packet = .ok ⟨⟨.broadcast, .acknowledge⟩, id, payload⟩)
      (known : station.registry.opened? id = some channel) :
      Outcome station packet
        (.ok ⟨.acknowledged id, none⟩,
          station.withRegistry (station.registry.setOpened id { channel with acked := true }))
  | ignored : Outcome station packet (.ok ⟨.ignored, none⟩, station)

variable {station : Station δ} {packet : Bytes}

private theorem receiveBroadcast_outcome {id : ChannelId} {payload : Cursor}
    (opened : Packet.opened? packet = .ok ⟨⟨.broadcast, .send⟩, id, payload⟩) :
    station.Outcome packet (station.receiveBroadcast id payload) := by
  have read := Packet.readBroadcast_of_opened? opened
  unfold receiveBroadcast
  cases schema : (Packet.schemaPayload payload).1 with
  | error error => exact .refused (.decode error)
  | ok tree =>
      rw [schema] at read
      exact .learned id tree read

private theorem receiveData_outcome {id : ChannelId} {payload : Cursor}
    (opened : Packet.opened? packet = .ok ⟨⟨.data, .send⟩, id, payload⟩) (expected : Option Part) :
    station.Outcome packet (station.receiveData id payload expected) := by
  unfold receiveData
  split
  · exact .refused (.unknownChannel id)
  · next stored known =>
      split
      · split
        · next error _ => exact .refused (.decode error)
        · next tree fills => exact .filled id payload stored tree opened known fills
      · exact .refused (.schemaMismatch id)

private theorem receiveAcknowledge_outcome {id : ChannelId} {payload : Cursor}
    (opened : Packet.opened? packet = .ok ⟨⟨.broadcast, .acknowledge⟩, id, payload⟩) :
    station.Outcome packet (station.receiveAcknowledge id) := by
  unfold receiveAcknowledge
  split
  · exact .refused (.unknownChannel id)
  · next channel known => exact .acknowledged id payload channel opened known

theorem receive_outcome (station : Station δ) (packet : Bytes) :
    station.Outcome packet (station.receive packet) := by
  unfold receive
  cases opening : Packet.opened? packet with
  | error error => exact .refused (.decode error)
  | ok found =>
      obtain ⟨⟨packetType, function⟩, id, payload⟩ := found
      cases packetType with
      | broadcast =>
          cases function with
          | send => exact receiveBroadcast_outcome opening
          | acknowledge => exact receiveAcknowledge_outcome opening
      | data =>
          cases function with
          | send => exact receiveData_outcome opening none
          | acknowledge => exact .ignored

/-- Values that cannot be written are refused before there is a packet. -/
theorem submit_outcome (station : Station δ) (id : ChannelId) (values : Part) :
    (∃ error, station.submit id values = (.error (.encode error), station)) ∨
      ∃ packet, Packet.data id values = .ok packet ∧
        station.Outcome packet (station.submit id values) := by
  unfold submit
  cases written : Packet.data id values with
  | error error => exact Or.inl ⟨error, rfl⟩
  | ok packet =>
      have opened := Packet.opened?_of_data written
      refine Or.inr ⟨packet, rfl, ?_⟩
      simp only [opened]
      exact receiveData_outcome opened (some values)

theorem Outcome.unchanged {result : Except RegistryError Reception × Station δ}
    (outcome : station.Outcome packet result) {error : RegistryError}
    (failed : result.1 = .error error) : result.2 = station := by
  cases outcome with
  | refused _ => rfl
  | learned _ _ _ => cases failed
  | filled _ _ _ _ _ _ _ => cases failed
  | acknowledged _ _ _ _ _ => cases failed
  | ignored => cases failed

end Station

/-- An operation that takes in a packet, or values as if they came in one. -/
def Operation.IsInput {ρ : Type} : Operation ρ → Prop
  | .receive _ | .submit _ _ => True
  | _ => False

namespace Node

variable {δ ρ : Type}

private theorem settle_failed {react : Reaction δ ρ} {node : Node δ ρ}
    {result : Except RegistryError Reception × Station δ} {error : RegistryError}
    (failed : (node.settle react result).1 = .failed error) :
    result.1 = .error error ∧ (node.settle react result).2 = node.withStation result.2 := by
  obtain ⟨answer, station⟩ := result
  cases answer with
  | error found =>
      cases failed
      exact ⟨rfl, rfl⟩
  | ok reception =>
      unfold settle at failed
      simp only at failed
      split at failed <;> cases failed

variable [Device δ]

/-- An input that fails leaves the node as it was: its channels with everything in them,
what is known of the peer, what has been handed to the device, and what callbacks have
been called for and still have to do. -/
theorem failed_input_changes_nothing {node : Node (Tapped δ) ρ}
    (react : Reaction (Tapped δ) ρ) {operation : Operation ρ} (input : operation.IsInput)
    {error : RegistryError} (failed : (perform react operation node).1 = .failed error) :
    (perform react operation node).2 = node := by
  cases operation with
  | receive packet =>
      unfold perform at failed ⊢
      obtain ⟨refused, after⟩ := settle_failed failed
      have outcome := node.station.receive_outcome packet
      rw [after, outcome.unchanged refused]
      rfl
  | submit id values =>
      unfold perform at failed ⊢
      obtain ⟨refused, after⟩ := settle_failed failed
      rw [after]
      rcases node.station.submit_outcome id values with ⟨_, unwritten⟩ | ⟨packet, _, outcome⟩
      · rw [unwritten]
        rfl
      · rw [outcome.unchanged refused]
        rfl
  | _ => cases input

/-- A packet that holds one byte more than the values of its channel, and values with one
number too few, at a node whose callbacks wait with operations. -/
theorem failed_input_changes_nothing_behind_values :
    let stored := Part.record "m" [.number "rpm" (.ofPattern .int32 5) none, .text "s" "on" none]
    let fewer := Part.record "m" [.text "s" "off" none]
    let packet := Packet.sealed (Packet.preamble .data .send 7 ++ [1, 0, 0, 0, 0x61, 0, 9])
    let waiting : Callback Unit := ⟨none, some .broadcastAll⟩
    let registry : Registry :=
      { opened := [Channel.new 0 fewer]
        remote := .insert .empty 7 (.new 7 stored)
        dataMode := true }
    let node : Node (Tapped MemoryDevice) Unit :=
      { station := { registry, sources := .empty, device := { device := .sound } }
        onBroadcast := some waiting, onData := some waiting }
    node.run (.receive packet) = (.failed (.decode (.trailingBytes 1)), node) ∧
      node.run (.submit 7 fewer) = (.failed (.schemaMismatch 7), node) := by
  intro stored fewer packet waiting registry node
  have trailing : (node.run (.receive packet)).1 = .failed (.decode (.trailingBytes 1)) := by
    rw [run_receive_answer]
    unfold Station.receive
    rw [Packet.opened?_sealed]
    rfl
  have mismatch : (node.run (.submit 7 fewer)).1 = .failed (.schemaMismatch 7) := by
    have plain : Part.PlainTexts fewer.values := by
      intro text member
      cases List.mem_singleton.mp member
      decide
    have written := Packet.data_eq_ok_iff.mpr ⟨plain, Eq.refl (Packet.sealed
      (Packet.preamble .data .send 7 ++ fewer.dataBytes))⟩
    unfold run perform Station.submit
    rw [written]
    simp only [Packet.opened?_sealed]
    rfl
  exact ⟨Prod.ext trailing (failed_input_changes_nothing _ trivial trailing),
    Prod.ext mismatch (failed_input_changes_nothing _ trivial mismatch)⟩

end Node

end Telemetry
