/-
Two ends that have only each other's packets to go by agree. What the receiver
knows of a channel has the schema the sender opened it with, and its values are
empty or those of one data packet of that channel, however late it came.
-/

import Telemetry.Device.Memory
import Telemetry.Proofs.Network.Sound

namespace Telemetry.Network

variable {δ ε ρ : Type} [Device δ] [Device ε] {network : Network δ ε ρ}

theorem Reachable.sound (reachable : network.Reachable) : network.Sound := by
  induction reachable with
  | start sender receiver freshSender freshReceiver quiet =>
      obtain ⟨acknowledges, sources, device, same⟩ := freshReceiver
      refine ⟨freshSender.truthful, ?_, quiet, ?_, ?_⟩
      · intro id tree member
        cases member
      · intro packet member
        rw [same] at member
        cases member
      · intro id channel known
        rw [same] at known
        cases known
  | step earlier step ih => exact ih.step step

/-- Two ends agree at any time, over a network that loses, repeats and reorders. What the
receiver knows of a channel has the schema of the sender's channel, and is empty or
holds what the sender wrote for one data packet. No packet is ever refused but for a
channel that is not known. -/
theorem agreement (reachable : network.Reachable) :
    (∀ id learned, network.receiver.station.registry.remote.get? id = some learned →
      ∃ opened, network.sender.station.registry.opened? id = some opened ∧
        learned.tree.sameSchema opened.tree = true ∧
        ((∀ value ∈ learned.tree.values, value.isUnset = true) ∨
          ∃ sent packet, (id, sent) ∈ network.encoded ∧ Packet.data id sent = .ok packet ∧
            packet ∈ network.sender.station.handed ∧ learned.tree.values = sent.values)) ∧
    (∀ packet ∈ network.sender.station.handed,
      (∃ event, (network.receiver.run (.receive packet)).1 = .event event) ∨
        ∃ id, (network.receiver.run (.receive packet)).1 = .failed (.unknownChannel id)) := by
  have sound := reachable.sound
  constructor
  · intro id learned known
    have agrees := sound.learned id learned known
    obtain ⟨opened, found, same⟩ := Registry.opened?_of_schema? agrees.schema
    refine ⟨opened, found, ?_, agrees.values⟩
    exact (Part.sameSchema_iff_blank learned.tree opened.tree).mpr same.symm
  · intro packet pooled
    exact (sound.deliver pooled).2

/-- A channel is opened, advertised, edited and sent; the network delivers both packets
twice, so that the channel is forgotten in between and old values meet a channel that
has just been learned again. -/
theorem agreement_after_repetition :
    let tree := Part.record "r" [.number "n" (.zero .double) none, .text "t" "" (some 2)]
    let edited := Part.record "r"
      [.number "n" (.ofPattern .double 0x8000000000000000) none, .text "t" "on" none]
    let node : Node (Tapped MemoryDevice) Unit :=
      { station := .start true .empty { device := .sound } }
    let begun : Network MemoryDevice MemoryDevice Unit := { sender := node, receiver := node }
    let advertised := (begun.ask (.openChannels [tree])).ask (.broadcast 0)
    let copied := { advertised with
      taken := advertised.taken ++ advertised.sender.station.registry.snapshot 0 }
    let changed := copied.placed (copied.sender.station.storeTree 0 edited)
    let sent := (changed.ask (.sendData 0)).recording 0
    let delivered := sent.sender.station.handed.foldl deliver sent
    let repeated := sent.sender.station.handed.foldl deliver delivered
    repeated.Reachable ∧
      ∃ learned, repeated.receiver.station.registry.remote.get? 0 = some learned ∧
        learned.tree.values = [.number (.ofPattern .double 0x8000000000000000), .text "on"] ∧
        ∃ opened, repeated.sender.station.registry.opened? 0 = some opened ∧
          learned.tree.sameSchema opened.tree = true := by
  intro tree edited node begun advertised copied changed sent delivered repeated
  have fit : ∀ part ∈ [tree], part.Advertisable := by
    intro part member
    rw [List.mem_singleton.mp member]
    exact ⟨by decide, by decide, by decide⟩
  have quiet : node.Quiet := by
    intro occasion callback installed
    cases occasion <;> cases installed
  have fresh : Fresh node.station := ⟨true, .empty, .sound, rfl⟩
  have started : begun.Reachable := .start node node fresh fresh quiet
  have announced : advertised.Reachable :=
    (started.step (.openChannels [tree] fit)).step (.broadcast 0)
  have copying : copied.Reachable := announced.step (.beginEdit 0)
  have member : (0, tree) ∈ copied.taken := List.mem_cons_self
  have editing : changed.Reachable :=
    copying.step (.endEdit 0 tree edited member (by decide))
  have sending : sent.Reachable := editing.step (.sendData 0)
  have delivering : delivered.Reachable := sending.deliverAll fun _ pooled => pooled
  have repeating : repeated.Reachable := delivering.deliverAll fun packet pooled => by
    have same : delivered.sender = sent.sender := rfl
    rw [same]
    exact pooled
  have holds : (repeated.receiver.station.registry.remote.get? 0).map
      (fun channel => channel.tree.values) =
        some [.number (.ofPattern .double 0x8000000000000000), .text "on"] := by
    decide +kernel
  obtain ⟨learned, known, values⟩ := Option.map_eq_some_iff.mp holds
  obtain ⟨opened, found, same, _⟩ := (agreement repeating).1 0 learned known
  exact ⟨repeating, learned, known, values, opened, found, same⟩
end Telemetry.Network
