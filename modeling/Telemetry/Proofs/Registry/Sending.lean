/-
The sending end of a link stays truthful in everything it is asked to do: opening
channels that can be advertised, advertising them, sending their values, storing
an edited tree of the same schema, and taking in an acknowledgement. Nothing is
assumed of the sources its trees draw on or of the device.
-/

import Telemetry.Proofs.Registry.Truthful
import Telemetry.Registry.Receive
import Telemetry.Registry.Send

namespace Telemetry.Station

variable {δ : Type} {encoded : List (ChannelId × Part)} {station : Station (Tapped δ)}

theorem openChannel_proceeds (truthful : station.Truthful encoded) {tree : Part}
    (fit : tree.Advertisable) : Proceeds encoded station (station.openChannel tree).2 := by
  unfold openChannel
  by_cases room : station.registry.opened.length < Registry.maxChannels
  · simp only [if_pos room]
    apply truthful.proceeds_opening fit room
    · rfl
    · rfl
  · simp only [if_neg room]
    exact truthful.stays

theorem storeTree_proceeds (truthful : station.Truthful encoded) {id : ChannelId} {tree : Part}
    (known : station.registry.schema? id = some tree.blank) :
    Proceeds encoded station (station.storeTree id tree) := by
  obtain ⟨channel, opened, sameSchema⟩ := Registry.opened?_of_schema? known
  unfold storeTree
  rw [opened]
  exact truthful.proceeds_setOpened opened { channel with tree } rfl sameSchema.symm rfl rfl

theorem receiveAcknowledge_proceeds (truthful : station.Truthful encoded) (id : ChannelId) :
    Proceeds encoded station (station.receiveAcknowledge id).2 := by
  unfold receiveAcknowledge
  split
  · exact truthful.stays
  · next channel opened =>
      exact truthful.proceeds_setOpened opened { channel with acked := true } rfl rfl rfl rfl

variable [Device δ]

/-- Sending from a channel refreshes it first, and then hands over what is written from
the tree it holds by then. -/
private theorem sendOpened_refreshed (truthful : station.Truthful encoded) {id : ChannelId}
    {channel : Channel} (opened : station.registry.opened? id = some channel)
    (packetOf : ChannelId → Part → Except EncodeError Bytes) :
    ∃ stored refreshed, Proceeds encoded station stored ∧
      stored.registry.opened? id = some refreshed ∧
      station.sendOpened (fun channel => channel.keep (packetOf channel.id channel.tree)) id =
        stored.transmitWritten (packetOf id refreshed.tree) := by
  have sameSchema := Part.fetch_blank channel.tree station.sources
  have sameId := truthful.numbered id channel opened
  let fetched := (channel.fetch station.sources).1
  let written := (fetched.keep (packetOf fetched.id fetched.tree)).2
  let stored : Station (Tapped δ) :=
    { station with
      registry := station.registry.setOpened id written
      sources := (channel.fetch station.sources).2 }
  have proceeds : Proceeds encoded station stored :=
    truthful.proceeds_setOpened opened written rfl sameSchema rfl rfl
  have found : stored.registry.opened? id = some written := by
    rw [Registry.opened?_setOpened opened, if_pos rfl]
  refine ⟨stored, written, proceeds, found, ?_⟩
  subst sameId
  exact sendOpened_opened opened packetOf

private theorem transmitWritten_proceeds (truthful : station.Truthful encoded)
    (packet : Except EncodeError Bytes)
    (written : ∀ bytes, packet = .ok bytes → station.registry.Written encoded bytes) :
    Proceeds encoded station (station.transmitWritten packet).2 := by
  apply truthful.proceeds_handing (transmitWritten_registry station packet)
    (transmitWritten_handed station packet)
  intro bytes member
  cases packet with
  | error error => cases member
  | ok only =>
      have same := List.mem_singleton.mp member
      exact written bytes (congrArg Except.ok same.symm)

theorem broadcastChannel_proceeds (truthful : station.Truthful encoded) (id : ChannelId) :
    Proceeds encoded station (station.broadcastChannel id).2 := by
  cases opened : station.registry.opened? id with
  | none =>
      unfold broadcastChannel
      rw [sendOpened_unknown opened]
      exact truthful.stays
  | some channel =>
      obtain ⟨stored, refreshed, proceeds, found, sent⟩ :=
        sendOpened_refreshed truthful opened Packet.broadcast
      have fit := proceeds.truthful.advertisable id refreshed found
      have schema := Registry.schema?_of_opened? found
      have last := transmitWritten_proceeds proceeds.truthful (Packet.broadcast id refreshed.tree)
        fun bytes written => .advertisement id refreshed.tree schema fit written
      have whole : station.broadcastChannel id =
          stored.transmitWritten (Packet.broadcast id refreshed.tree) := sent
      rw [whole]
      exact proceeds.trans last

private theorem broadcastEach_proceeds (truthful : station.Truthful encoded)
    (ids : List ChannelId) : Proceeds encoded station (station.broadcastEach ids).2 := by
  induction ids generalizing station with
  | nil => exact truthful.stays
  | cons id rest ih =>
      have first := broadcastChannel_proceeds truthful id
      rw [broadcastEach]
      split
      · next after taken =>
          rw [taken] at first
          exact first.trans (ih first.truthful)
      · next error after refused =>
          rw [refused] at first
          exact first

theorem broadcastAll_proceeds (truthful : station.Truthful encoded) :
    Proceeds encoded station station.broadcastAll.2 :=
  broadcastEach_proceeds truthful station.registry.openedIds

theorem broadcastUnacked_proceeds (truthful : station.Truthful encoded) :
    Proceeds encoded station station.broadcastUnacked.2 :=
  broadcastEach_proceeds truthful (station.registry.ackedIds false)

/-- Sending the values of a channel records the tree they were written from, which is
the one the channel is left with. -/
theorem sendData_proceeds (truthful : station.Truthful encoded) (id : ChannelId) :
    Proceeds (encoded ++ (station.sendData id).2.registry.snapshot id) station
      (station.sendData id).2 := by
  cases opened : station.registry.opened? id with
  | none =>
      unfold sendData
      rw [sendOpened_unknown opened]
      exact (truthful.recording id).stays
  | some channel =>
      obtain ⟨stored, refreshed, proceeds, found, sent⟩ :=
        sendOpened_refreshed truthful opened Packet.data
      have recorded := proceeds.truthful.recording id
      have member : (id, refreshed.tree) ∈ encoded ++ stored.registry.snapshot id := by
        rw [Registry.snapshot_of_opened? found]
        exact List.mem_append_right encoded List.mem_cons_self
      have last := transmitWritten_proceeds recorded (Packet.data id refreshed.tree)
        fun bytes written => .values id refreshed.tree member written
      have whole : station.sendData id =
          stored.transmitWritten (Packet.data id refreshed.tree) := sent
      rw [whole, transmitWritten_registry]
      exact proceeds.trans last

end Telemetry.Station
