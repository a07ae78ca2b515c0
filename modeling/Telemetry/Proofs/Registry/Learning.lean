/-
An advertisement can be read alone, and it can be taken in by a registry. The two go
different ways: one looks at the header before there is a channel and stops at any other
packet, the other opens whatever packet comes and then sees what to do with it.

They never disagree about an advertisement. What one reads out of it is what the other
stores, what keeps one from reading it is what the other refuses it for, and nothing else
is learned from.
-/

import Telemetry.Proofs.Registry.Change
import Telemetry.Proofs.Registry.Grounds
import Telemetry.Proofs.Registry.Quiet

namespace Telemetry

namespace Packet

/-- How a packet can be found, read alone and opened. -/
inductive Readings (packet : Bytes) : Prop where
  | unfit (error : DecodeError) (alone : readBroadcast packet = .error error)
      (opening : opened? packet = .error error)
  | other (header : Header) (alone : readBroadcast packet = .error (.unexpectedHeader header))
  | advertisement (id : ChannelId) (payload : Cursor)
      (alone : readBroadcast packet = (schemaPayload payload).1.map fun tree => (id, tree))
      (opening : opened? packet = .ok ⟨⟨.broadcast, .send⟩, id, payload⟩)

/-- Whatever stands in front of the schema is checked alike, but for the header. -/
theorem readings (packet : Bytes) : Readings packet := by
  cases sound : checked packet with
  | error error =>
      refine .unfit error ?_ ?_
      · unfold readBroadcast
        rw [sound]
      · unfold opened?
        rw [sound]
  | ok cursor =>
      have alone : readBroadcast packet = (advertised cursor).1 := by
        unfold readBroadcast
        rw [sound]
      unfold advertised at alone
      rw [Decoder.bind_apply] at alone
      cases headed : header cursor with
      | mk outcome afterHeader =>
          rw [headed] at alone
          cases outcome with
          | error error =>
              refine .unfit error alone ?_
              unfold opened?
              simp [sound, headed]
          | ok found =>
              simp only at alone
              by_cases apart : found ≠ ⟨.broadcast, .send⟩
              · rw [if_pos apart] at alone
                exact .other found alone
              · rw [if_neg apart, Decoder.bind_apply] at alone
                cases numbered : Decoder.byte afterHeader with
                | mk outcome payload =>
                    rw [numbered] at alone
                    cases outcome with
                    | error error =>
                        refine .unfit error alone ?_
                        unfold opened?
                        simp [sound, headed, numbered]
                    | ok id =>
                        refine .advertisement id payload ?_ ?_
                        · simp only at alone
                          rw [alone, Decoder.bind_apply]
                          cases schemaPayload payload with
                          | mk outcome last => cases outcome <;> rfl
                        · unfold opened?
                          simp [sound, headed, numbered, Classical.not_not.mp apart]

end Packet

namespace Station

variable {δ : Type} [Device δ]

/-- What keeps a packet from being read as an advertisement, short of being something else,
is what it is refused for. -/
private theorem receive_of_readBroadcast_error {packet : Bytes} {error : DecodeError}
    (refused : Packet.readBroadcast packet = .error error)
    (meant : ∀ header, error ≠ .unexpectedHeader header) (station : Station δ) :
    station.receive packet = (.error (.decode error), station) := by
  unfold receive
  cases Packet.readings packet with
  | unfit other alone opening =>
      rw [refused, Except.error.injEq] at alone
      rw [opening, alone]
  | other header alone =>
      rw [refused, Except.error.injEq] at alone
      exact absurd alone (meant header)
  | advertisement id payload alone opening =>
      rw [opening]
      simp only
      unfold receiveBroadcast
      cases schema : (Packet.schemaPayload payload).1 with
      | error other =>
          rw [refused, schema] at alone
          cases alone
          rfl
      | ok tree =>
          rw [refused, schema] at alone
          cases alone

/-- Only what is read as an advertisement is learned from. -/
private theorem read_of_learned {station : Station δ} {packet : Bytes} {reception : Reception}
    {id : ChannelId} (received : (station.receive packet).1 = .ok reception)
    (learned : reception.event = .schemaLearned id) :
    ∃ tree, Packet.readBroadcast packet = .ok (id, tree) := by
  have outcome := station.receive_outcome packet
  generalize station.receive packet = result at outcome received
  cases outcome with
  | refused error => cases received
  | learned other tree read =>
      cases received
      cases learned
      exact ⟨tree, read⟩
  | filled other payload stored tree opened known fills =>
      cases received
      cases learned
  | acknowledged other payload channel opened known =>
      cases received
      cases learned
  | ignored =>
      cases received
      cases learned

end Station

namespace Node

variable {δ ρ : Type} [Device δ]

/-- A packet read alone and the same packet taken in come to the same. If a channel and a tree
are read, the channel is learned and stored with just this tree, and stays so unless the
callback asks for something else. If reading fails on an advertisement, taking it in fails for
the same reason and does nothing. Nothing is learned from a packet with another header. -/
theorem reading_agrees {node : Node δ ρ}
    (idle : ∀ callback, node.onBroadcast = some callback → callback.pending = none)
    (packet : Bytes) :
    let received := node.run (.receive packet)
    (∀ id tree, Packet.readBroadcast packet = .ok (id, tree) →
      received.1 = .event (.schemaLearned id) ∧
        ∃ scratch, received.2.station.registry.remote.get? id =
          some { Channel.new id tree with scratch }) ∧
    (∀ error, Packet.readBroadcast packet = .error error →
      (∀ header, error ≠ .unexpectedHeader header) →
      received = (.failed (.decode error), node)) ∧
    ∀ header, Packet.readBroadcast packet = .error (.unexpectedHeader header) →
      ∀ id, received.1 ≠ .event (.schemaLearned id) := by
  intro received
  refine ⟨?_, ?_, ?_⟩
  · intro id tree read
    have receives := Station.receive_of_readBroadcast read node.station
    obtain ⟨scratch, channel, _⟩ := node.station.learn_registry id tree
    have answer : received.1 = .event (.schemaLearned id) := by
      unfold received
      rw [run_receive_answer, receives]
      rfl
    have ran : received.2 = Node.react occasionCount .broadcast (node.station.learn id tree).1
        (node.withStation (node.station.learn id tree).2) := by
      unfold received
      rw [run_receive_eq, receives]
      rfl
    have calls : received.2.station = (node.station.learn id tree).2 := by
      rw [ran, react_idle idle]
      split <;> rfl
    refine ⟨answer, scratch, ?_⟩
    rw [calls, Station.learn_remote, ChannelTable.get?_insert, if_pos rfl, channel]
  · intro error refused meant
    exact run_receive_refused (Station.receive_of_readBroadcast_error refused meant node.station)
  · intro header refused id learned
    unfold received at learned
    rw [run_receive_answer] at learned
    cases reading : (node.station.receive packet).1 with
    | error error =>
        rw [reading] at learned
        cases learned
    | ok reception =>
        rw [reading] at learned
        have event : reception.event = .schemaLearned id := Answer.event.inj learned
        obtain ⟨tree, read⟩ := Station.read_of_learned reading event
        rw [refused] at read
        cases read

/-- An advertisement behind data; a packet that ends behind the header of one, which both
miss the channel of; and a packet that ends behind another header, which is refused for two
reasons. -/
theorem reading_agrees_without_channel :
    let tree := Part.record "r" [.text "s" "" none]
    let advertised := Packet.sealed (Packet.preamble .broadcast .send 7 ++ tree.schemaBytes)
    let registry : Registry := { remote := .insert .empty 3 (.new 3 tree), dataMode := true }
    let node : Node MemoryDevice Unit :=
      { station := { registry, sources := .empty, device := .sound }
        onBroadcast := some ⟨none, none⟩
        onData := some ⟨none, some .broadcastAll⟩ }
    (∀ callback, node.onBroadcast = some callback → callback.pending = none) ∧
      (∃ scratch, (node.run (.receive advertised)).2.station.registry.remote.get? 7 =
        some { Channel.new 7 tree with scratch }) ∧
      node.run (.receive (Packet.sealed [0x00])) =
        (.failed (.decode (.outOfBounds 1 1 1)), node) ∧
      Packet.readBroadcast (Packet.sealed [0x80]) =
        .error (.unexpectedHeader ⟨.data, .send⟩) ∧
      ∀ id, (node.run (.receive (Packet.sealed [0x80]))).1 ≠ .event (.schemaLearned id) := by
  intro tree advertised registry node
  have idle : ∀ callback, node.onBroadcast = some callback → callback.pending = none := by
    intro callback installed
    cases installed
    rfl
  have read : Packet.readBroadcast advertised = .ok (7, tree) := by
    have fit : (∀ name ∈ tree.names, WireItem.isPlain name = true) ∧
        (∀ count ∈ tree.fieldCounts, count < 256 ^ Decoder.countSize) := by
      decide
    have here := Packet.payloadStart_rest .broadcast .send 7 tree.schemaBytes
    rw [Packet.readBroadcast_sealed,
      Packet.schemaPayload_of_shallow fit.1 fit.2 (by decide) here]
    rfl
  have short : Packet.readBroadcast (Packet.sealed [0x00]) = .error (.outOfBounds 1 1 1) := rfl
  have other : Packet.readBroadcast (Packet.sealed [0x80]) =
      .error (.unexpectedHeader ⟨.data, .send⟩) := rfl
  obtain ⟨learns, _, _⟩ := reading_agrees idle advertised
  obtain ⟨_, refuses, _⟩ := reading_agrees idle (Packet.sealed [0x00])
  obtain ⟨_, _, never⟩ := reading_agrees idle (Packet.sealed [0x80])
  exact ⟨idle, (learns 7 tree read).2, refuses _ short fun _ => DecodeError.noConfusion, other,
    never _ other⟩

end Node

end Telemetry
