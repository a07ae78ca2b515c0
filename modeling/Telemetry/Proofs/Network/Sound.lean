/-
What ties the two ends of a network together at any time. Every packet in the pool
came of a schema of the sender. Schemas never change, so a packet fits whatever the
receiver knows by the time it comes, even if the receiver has forgotten and learned
the channel again in between. Every step keeps this.
-/

import Telemetry.Proofs.Network
import Telemetry.Proofs.Registry.Receiving

namespace Telemetry.Network

variable {δ ε ρ : Type} {before after network : Network δ ε ρ}

/-- A tree has the schema of the sender's channel, and it is empty or holds what the
sender once wrote. -/
structure Agrees (network : Network δ ε ρ) (id : ChannelId) (tree : Part) : Prop where
  schema : network.sender.station.registry.schema? id = some tree.blank
  values : (∀ value ∈ tree.values, value.isUnset = true) ∨
    ∃ sent packet, (id, sent) ∈ network.encoded ∧ Packet.data id sent = .ok packet ∧
      packet ∈ network.sender.station.handed ∧ tree.values = sent.values

structure Sound (network : Network δ ε ρ) : Prop where
  truthful : network.sender.station.Truthful network.encoded
  taken : ∀ id tree, (id, tree) ∈ network.taken →
    network.sender.station.registry.schema? id = some tree.blank
  quiet : network.receiver.Quiet
  acknowledgements : ∀ packet ∈ network.receiver.station.handed,
    ∃ id, packet = Packet.acknowledge id
  learned : ∀ id channel, network.receiver.station.registry.remote.get? id = some channel →
    network.Agrees id channel.tree

private theorem Sound.of_sender (sound : before.Sound)
    (proceeds : Station.Proceeds after.encoded before.sender.station after.sender.station)
    (encoded : ∀ entry ∈ before.encoded, entry ∈ after.encoded)
    (taken : after.taken = before.taken) (receiver : after.receiver = before.receiver) :
    after.Sound := by
  refine ⟨proceeds.truthful, ?_, ?_, ?_, ?_⟩
  · intro id tree member
    rw [taken] at member
    exact proceeds.schemas id tree.blank (sound.taken id tree member)
  · rw [receiver]
    exact sound.quiet
  · rw [receiver]
    exact sound.acknowledgements
  · intro id channel known
    rw [receiver] at known
    have agrees := sound.learned id channel known
    constructor
    · exact proceeds.schemas id channel.tree.blank agrees.schema
    · rcases agrees.values with unset | ⟨sent, packet, recorded, written, pooled, same⟩
      · exact Or.inl unset
      · right
        exact ⟨sent, packet, encoded (id, sent) recorded, written, proceeds.handed packet pooled,
          same⟩

private theorem Sound.of_receiver {receiver : Node (Tapped ε) ρ} (sound : network.Sound)
    (quiet : receiver.Quiet)
    (acknowledgements : ∀ packet ∈ receiver.station.handed, ∃ id, packet = Packet.acknowledge id)
    (learned : ∀ id channel, receiver.station.registry.remote.get? id = some channel →
      network.Agrees id channel.tree) : Sound { network with receiver } := by
  refine ⟨sound.truthful, sound.taken, quiet, acknowledgements, ?_⟩
  intro id channel known
  have agrees := learned id channel known
  exact ⟨agrees.schema, agrees.values⟩

private theorem Sound.keeping {receiver : Node (Tapped ε) ρ} (sound : network.Sound)
    (quiet : receiver.Quiet)
    (handed : receiver.station.handed = network.receiver.station.handed)
    (registry : receiver.station.registry = network.receiver.station.registry) :
    Sound { network with receiver } := by
  apply sound.of_receiver quiet
  · rw [handed]
    exact sound.acknowledgements
  · rw [registry]
    exact sound.learned

private theorem Sound.storing {receiver : Node (Tapped ε) ρ} {id : ChannelId} (channel : Channel)
    (sound : network.Sound) (agrees : network.Agrees id channel.tree) (quiet : receiver.Quiet)
    (acknowledgements : ∀ packet ∈ receiver.station.handed, ∃ id, packet = Packet.acknowledge id)
    (remote : receiver.station.registry.remote =
      network.receiver.station.registry.remote.insert id channel) :
    Sound { network with receiver } := by
  apply sound.of_receiver quiet acknowledgements
  rw [remote]
  exact ChannelTable.forall_get?_insert agrees sound.learned

private theorem Sound.placed {station : Station (Tapped δ)} (sound : network.Sound)
    (proceeds : Station.Proceeds network.encoded network.sender.station station) :
    (network.placed station).Sound :=
  sound.of_sender proceeds (fun _ member => member) rfl rfl

theorem Sound.beginEdit (sound : network.Sound) (id : ChannelId) :
    Sound { network with
      taken := network.taken ++ network.sender.station.registry.snapshot id } := by
  have recording := sound.truthful.recording id
  refine ⟨sound.truthful, ?_, sound.quiet, sound.acknowledgements, ?_⟩
  · intro wanted tree member
    rcases List.mem_append.mp member with earlier | now
    · exact sound.taken wanted tree earlier
    · exact recording.recorded wanted tree (List.mem_append_right network.encoded now)
  · intro wanted channel known
    have agrees := sound.learned wanted channel known
    exact ⟨agrees.schema, agrees.values⟩

theorem Sound.endEdit {id : ChannelId} {taken edited : Part} (sound : network.Sound)
    (copied : (id, taken) ∈ network.taken) (kept : edited.sameSchema taken = true) :
    (network.placed (network.sender.station.storeTree id edited)).Sound := by
  have known := sound.taken id taken copied
  rw [← (Part.sameSchema_iff_blank edited taken).mp kept] at known
  exact sound.placed (Station.storeTree_proceeds sound.truthful known)

theorem Fresh.truthful {station : Station (Tapped δ)} (fresh : Fresh station) :
    station.Truthful [] := by
  obtain ⟨acknowledges, sources, device, same⟩ := fresh
  subst same
  refine ⟨?_, ?_, ?_, ?_⟩
  · intro id channel opened
    cases opened
  · intro id channel opened
    cases opened
  · intro id tree member
    cases member
  · intro packet member
    cases member

private theorem openChannels_proceeds {encoded : List (ChannelId × Part)} {trees : List Part}
    {node : Node (Tapped δ) ρ} (truthful : node.station.Truthful encoded)
    (fit : ∀ tree ∈ trees, tree.Advertisable) :
    Station.Proceeds encoded node.station (node.openChannels trees).2.station := by
  induction trees generalizing node with
  | nil => exact truthful.stays
  | cons tree rest ih =>
      obtain ⟨here, later⟩ := List.forall_mem_cons.mp fit
      have first := Station.openChannel_proceeds truthful here
      cases rest with
      | nil => exact first
      | cons next rest =>
          have begun : (node.withStation (node.station.openChannel tree).2).station.Truthful encoded :=
            first.truthful
          exact first.trans (ih begun later)

section Sender

variable [Device δ]

theorem Sound.ask {operation : Operation ρ} (sound : network.Sound)
    (proceeds : Station.Proceeds network.encoded network.sender.station
      (network.ask operation).sender.station) : (network.ask operation).Sound :=
  sound.of_sender proceeds (fun _ member => member) rfl rfl

theorem Sound.answer {packet : Bytes} (sound : network.Sound)
    (pooled : packet ∈ network.receiver.station.handed) :
    (network.ask (.receive packet)).Sound := by
  obtain ⟨id, same⟩ := sound.acknowledgements packet pooled
  have proceeds := Station.receiveAcknowledge_proceeds sound.truthful id
  rw [← Station.receive_acknowledge, ← same] at proceeds
  have silent : ∀ reception, (network.sender.station.receive packet).1 = .ok reception →
      reception.event.occasion? = none := by
    intro reception received
    rw [same, Station.receive_acknowledge] at received
    unfold Station.receiveAcknowledge at received
    split at received
    · cases received
    · cases received
      rfl
  apply sound.ask
  unfold Network.ask
  rw [Node.run_receive_silent silent]
  exact proceeds

theorem Sound.sendData (sound : network.Sound) (id : ChannelId) :
    ((network.ask (.sendData id)).recording id).Sound := by
  apply sound.of_sender (Station.sendData_proceeds sound.truthful id)
  · intro entry member
    exact List.mem_append_left _ member
  · rfl
  · rfl

end Sender

section Receiver

variable [Device ε]

theorem Sound.learn {receiver : Node (Tapped ε) ρ} {id : ChannelId} {tree : Part}
    (sound : network.Sound) (schema : network.sender.station.registry.schema? id = some tree.blank)
    (quiet : receiver.Quiet)
    (learned : receiver.station = (network.receiver.station.learn id tree.blank).2) :
    Sound { network with receiver } := by
  apply sound.of_receiver quiet
  · intro packet member
    rw [learned, Station.learn_handed] at member
    rcases List.mem_append.mp member with earlier | answer
    · exact sound.acknowledgements packet earlier
    · split at answer
      · exact ⟨id, List.mem_singleton.mp answer⟩
      · cases answer
  · intro wanted channel known
    rw [learned] at known
    rcases Station.learn_get? known with ⟨same, empty⟩ | earlier
    · rw [same, empty]
      constructor
      · rw [Part.blank_blank]
        exact schema
      · left
        exact Part.blank_values tree
    · exact sound.learned wanted channel earlier

theorem Sound.acknowledge (sound : network.Sound) (id : ChannelId) :
    Sound { network with receiver := (network.receiver.run (.acknowledge id)).2 } := by
  have quiet : (network.receiver.run (.acknowledge id)).2.Quiet :=
    sound.quiet.of_callbacks rfl rfl
  have station : (network.receiver.run (.acknowledge id)).2.station =
      (network.receiver.station.acknowledge id).2 := rfl
  cases known : network.receiver.station.registry.remote.get? id with
  | none =>
      rw [Station.acknowledge_unknown known] at station
      apply sound.keeping quiet
      · rw [station]
      · rw [station]
  | some channel =>
      obtain ⟨handed, remote⟩ := Station.acknowledge_known known
      have agrees := sound.learned id channel known
      apply sound.storing channel.acknowledgePacket.2 agrees quiet
      · intro packet member
        rw [station, handed] at member
        rcases List.mem_append.mp member with earlier | answer
        · exact sound.acknowledgements packet earlier
        · exact ⟨channel.id, List.mem_singleton.mp answer⟩
      · rw [station]
        exact remote

/-- What the receiver answers to a packet from the pool. -/
def Answered (network : Network δ ε ρ) (packet : Bytes) : Prop :=
  (∃ event, (network.receiver.run (.receive packet)).1 = .event event) ∨
    ∃ id, (network.receiver.run (.receive packet)).1 = .failed (.unknownChannel id)

theorem Sound.deliver_advertisement {id : ChannelId} {tree : Part} {packet : Bytes}
    (sound : network.Sound) (schema : network.sender.station.registry.schema? id = some tree.blank)
    (fit : tree.Advertisable) (written : Packet.broadcast id tree = .ok packet) :
    (network.deliver packet).Sound ∧ network.Answered packet := by
  obtain ⟨station, quiet⟩ := sound.quiet.run_receive packet
  unfold Answered
  rw [Node.run_receive_answer]
  rw [Station.receive_broadcast fit written] at station ⊢
  constructor
  · exact sound.learn schema quiet station
  · exact Or.inl ⟨.schemaLearned id, rfl⟩

/-- Values that come late are refused if their channel has been forgotten, and fill it
if it has been learned again. -/
theorem Sound.deliver_values {id : ChannelId} {tree : Part} {packet : Bytes}
    (sound : network.Sound) (recorded : (id, tree) ∈ network.encoded)
    (written : Packet.data id tree = .ok packet)
    (pooled : packet ∈ network.sender.station.handed) :
    (network.deliver packet).Sound ∧ network.Answered packet := by
  obtain ⟨station, quiet⟩ := sound.quiet.run_receive packet
  unfold Answered
  rw [Node.run_receive_answer]
  cases known : network.receiver.station.registry.remote.get? id with
  | none =>
      rw [Station.receive_data_unknown written known] at station ⊢
      constructor
      · apply sound.keeping quiet
        · rw [station]
        · rw [station]
      · exact Or.inr ⟨id, rfl⟩
  | some stored =>
      have schema := sound.truthful.recorded id tree recorded
      have agrees := sound.learned id stored known
      have sameSchema : tree.blank = stored.tree.blank :=
        Option.some.inj (schema.symm.trans agrees.schema)
      obtain ⟨filled, values, kept, received⟩ :=
        Station.receive_data_known written known sameSchema
      rw [received] at station ⊢
      have filledAgrees : network.Agrees id filled := by
        constructor
        · rw [Part.blank_eq_of_clear_eq kept]
          exact agrees.schema
        · exact Or.inr ⟨tree, packet, recorded, written, pooled, values⟩
      constructor
      · apply sound.storing { stored with tree := filled } filledAgrees quiet
        · rw [station]
          exact sound.acknowledgements
        · rw [station]
          rfl
      · exact Or.inl ⟨.dataReceived id, rfl⟩

theorem Sound.deliver {packet : Bytes} (sound : network.Sound)
    (pooled : packet ∈ network.sender.station.handed) :
    (network.deliver packet).Sound ∧ network.Answered packet := by
  cases sound.truthful.written packet pooled with
  | advertisement id tree schema fit written =>
      exact sound.deliver_advertisement schema fit written
  | values id tree recorded written => exact sound.deliver_values recorded written pooled

end Receiver

variable [Device δ] [Device ε]

theorem Sound.step (sound : before.Sound) (step : Step before after) : after.Sound := by
  have truthful := sound.truthful
  cases step with
  | openChannels trees fit => exact sound.ask (openChannels_proceeds truthful fit)
  | broadcast id => exact sound.ask (Station.broadcastChannel_proceeds truthful id)
  | broadcastAll => exact sound.ask (Station.broadcastAll_proceeds truthful)
  | broadcastUnacked => exact sound.ask (Station.broadcastUnacked_proceeds truthful)
  | sendData id => exact sound.sendData id
  | beginEdit id => exact sound.beginEdit id
  | endEdit id taken edited copied kept => exact sound.endEdit copied kept
  | drift sources device =>
      have unmoved : Station.Proceeds before.encoded before.sender.station
          (amid before.sender.station sources device) :=
        ⟨⟨truthful.numbered, truthful.advertisable, truthful.recorded, truthful.written⟩,
          fun _ _ known => known, fun _ member => member⟩
      exact sound.placed unmoved
  | receiverDrift sources device =>
      apply sound.keeping
      · exact sound.quiet.of_callbacks rfl rfl
      · rfl
      · rfl
  | deliver packet pooled => exact (sound.deliver pooled).1
  | acknowledge id => exact sound.acknowledge id
  | answer packet pooled => exact sound.answer pooled

end Telemetry.Network
