/-
What sending from one channel leaves behind. The channel is refreshed first: each of its leaves
that has a source calls it once, in wire order, and no other source is called. The refreshed
tree is stored whether or not a packet can be written of it and is taken, and a packet that is
handed over carries what is stored by then. The device either takes it or nothing has been
sent. Nothing else of the registry changes.
-/

import Telemetry.Proofs.Packet.Scratch
import Telemetry.Proofs.Part.Refreshing
import Telemetry.Proofs.Registry.Numbering
import Telemetry.Proofs.Registry.Standing
import Telemetry.Registry.Send

namespace Telemetry

namespace Station

variable {δ : Type} [Device δ]

/-- How it ends to send a packet with this payload. -/
inductive Sends (packetType : PacketType) (id : ChannelId) (payload : PacketWriter Unit)
    (before after : Station δ) : Except RegistryError Unit → Prop where
  | unwritable (error : EncodeError) (fails : (payload.on []).1 = .error error)
      (untouched : after.device = before.device) (sent : after.sent = before.sent) :
      Sends packetType id payload before after (.error (.encode error))
  | refused (bytes : Bytes) (error : DeviceError) (written : payload.on [] = (.ok (), bytes))
      (refuses : Device.send (Packet.sealed (Packet.preamble packetType .send id ++ bytes))
        before.device = (.error error, after.device))
      (sent : after.sent = before.sent) :
      Sends packetType id payload before after (.error (.device error))
  | taken (bytes : Bytes) (written : payload.on [] = (.ok (), bytes))
      (takes : Device.send (Packet.sealed (Packet.preamble packetType .send id ++ bytes))
        before.device = (.ok (), after.device))
      (sent : after.sent =
        before.sent ++ [Packet.sealed (Packet.preamble packetType .send id ++ bytes)]) :
      Sends packetType id payload before after (.ok ())

/-- One channel was refreshed and sent from, with this outcome. -/
structure SendsRefreshed (packetType : PacketType) (payload : Part → PacketWriter Unit)
    (id : ChannelId) (channel : Channel) (before after : Station δ)
    (outcome : Except RegistryError Unit) : Prop where
  called : after.sources = before.sources.called channel.tree.sourceIds
  stored : ∃ tree scratch, after.registry.opened? id = some { channel with tree, scratch } ∧
    Part.Refreshed before.sources channel.tree tree ∧
    Sends packetType id (payload tree) before after outcome
  others : ∀ other, other ≠ id → after.registry.opened? other = before.registry.opened? other
  /-- The channels stand in the same order with the same numbers and schemas, and those
  acknowledged are the same. -/
  standings : after.registry.standings = before.registry.standings
  remote : after.registry.remote = before.registry.remote
  dataMode : after.registry.dataMode = before.registry.dataMode
  acknowledges : after.registry.acknowledges = before.registry.acknowledges

private theorem transmitWritten_sends {payload : PacketWriter Unit} {items : List WireItem}
    (appends : PacketWriter.Appends payload items) (packetType : PacketType) (id : ChannelId)
    {before station : Station δ} (device : station.device = before.device)
    (sent : station.sent = before.sent) :
    Sends packetType id payload before
      (station.transmitWritten (Packet.carrying packetType id items)).2
      (station.transmitWritten (Packet.carrying packetType id items)).1 := by
  have writes := appends []
  rw [List.nil_append] at writes
  rw [Packet.carrying, WireItem.encode]
  rcases laid : WireItem.write items with ⟨bytes, error | done⟩
  · rw [laid] at writes
    exact .unwritable error (congrArg Prod.fst writes) device sent
  · rw [laid] at writes
    simp only [Except.map, transmitWritten, transmit]
    rw [device, sent]
    cases handed : Device.send (Packet.sealed (Packet.preamble packetType .send id ++ bytes))
        before.device with
    | mk answer later =>
        cases answer with
        | ok taken => exact .taken bytes writes handed rfl
        | error error => exact .refused bytes error writes handed rfl

/-- Whatever kind of payload is packed, it is packed of the tree the channel is left with. -/
private theorem sendOpened_sendsRefreshed {payload : Part → PacketWriter Unit}
    {items : Part → List WireItem}
    (appends : ∀ tree, PacketWriter.Appends (payload tree) (items tree))
    (packetType : PacketType) {station : Station δ} {id : ChannelId} {channel : Channel}
    (found : station.registry.opened? id = some channel) (own : channel.id = id) :
    ∃ outcome after,
      station.sendOpened
        (fun channel => channel.keep (Packet.carrying packetType channel.id (items channel.tree)))
        id = (outcome, after) ∧
      SendsRefreshed packetType payload id channel station after outcome := by
  subst own
  let fetched := channel.tree.fetch station.sources
  let packet := Packet.carrying packetType channel.id (items fetched.1)
  let written : Channel :=
    { channel with tree := fetched.1, scratch := packet.toOption.getD [] }
  let stored : Station δ :=
    { station with
      registry := station.registry.setOpened channel.id written
      sources := fetched.2 }
  have standing : written.standing = channel.standing := channel.fetch_standing station.sources
  have sending : station.sendOpened
      (fun channel => channel.keep (Packet.carrying packetType channel.id (items channel.tree)))
      channel.id = stored.transmitWritten packet :=
    sendOpened_opened found fun id tree => Packet.carrying packetType id (items tree)
  have registry : (stored.transmitWritten packet).2.registry =
      station.registry.setOpened channel.id written := transmitWritten_registry stored packet
  refine ⟨(stored.transmitWritten packet).1, (stored.transmitWritten packet).2, sending, ?_⟩
  constructor
  case called =>
    rw [transmitWritten_sources]
    exact (channel.tree.fetch_leaves station.sources).2
  case stored =>
    refine ⟨fetched.1, written.scratch, ?_, channel.tree.fetch_refreshed station.sources,
      transmitWritten_sends (appends fetched.1) packetType channel.id rfl rfl⟩
    rw [registry, Registry.opened?_setOpened found, if_pos rfl]
  case others =>
    intro other different
    rw [registry, Registry.opened?_setOpened found, if_neg different]
  case standings =>
    rw [registry]
    exact Registry.standings_setOpened found standing
  all_goals simp [stored]

theorem sendData_sendsRefreshed {station : Station δ} {id : ChannelId} {channel : Channel}
    (found : station.registry.opened? id = some channel) (own : channel.id = id) :
    ∃ outcome after, station.sendData id = (outcome, after) ∧
      SendsRefreshed .data PacketWriter.putData id channel station after outcome :=
  sendOpened_sendsRefreshed PacketWriter.appends_putData .data found own

theorem broadcastChannel_sendsRefreshed {station : Station δ} {id : ChannelId}
    {channel : Channel} (found : station.registry.opened? id = some channel)
    (own : channel.id = id) :
    ∃ outcome after, station.broadcastChannel id = (outcome, after) ∧
      SendsRefreshed .broadcast PacketWriter.putSchema id channel station after outcome :=
  sendOpened_sendsRefreshed PacketWriter.appends_putSchema .broadcast found own

end Station

namespace Node

open Station (SendsRefreshed)

variable {δ ρ : Type} [Device δ]

/-- Sending the values of a channel and advertising it refresh that channel once, and nothing
else happens to the registry, however it ends. What is handed over is written from the tree
as it is stored then. -/
theorem sending_refreshes_one_channel {node : Node δ ρ} (reachable : node.Reachable)
    {id : ChannelId} {channel : Channel}
    (found : node.station.registry.opened? id = some channel) :
    (∃ outcome after,
      node.run (.sendData id) =
        (.ofResult (fun _ => .nothing) outcome, node.withStation after) ∧
      SendsRefreshed .data PacketWriter.putData id channel node.station after outcome) ∧
    ∃ outcome after,
      node.run (.broadcast id) =
        (.ofResult (fun _ => .nothing) outcome, node.withStation after) ∧
      SendsRefreshed .broadcast PacketWriter.putSchema id channel node.station after outcome := by
  have own := reachable.numbered.own id channel found
  constructor
  · obtain ⟨outcome, after, sent, refreshed⟩ := Station.sendData_sendsRefreshed found own
    exact ⟨outcome, after, congrArg (node.finish fun _ => .nothing) sent, refreshed⟩
  · obtain ⟨outcome, after, sent, refreshed⟩ := Station.broadcastChannel_sendsRefreshed found own
    exact ⟨outcome, after, congrArg (node.finish fun _ => .nothing) sent, refreshed⟩

/-- Two leaves and another channel share a source, and the device refuses the packet. -/
theorem sending_refreshes_one_channel_of_shared_source :
    let number (value : Nat) : Number := .ofPattern .uint8 value
    let tree : Part := .record "m" [.number "a" (number 5) (some 1), .text "s" "on" none,
      .number "b" (number 6) (some 1)]
    let other : Part := .number "c" (number 4) (some 1)
    let sources : Sources := .scripted [] [(1, [number 7, number 8, number 9])]
    let begun : Node MemoryDevice Unit := fresh true sources (.failAfter 0 .queueFull)
    let node := begun.turns [.ask (.openChannels [tree, other])]
    node.Reachable ∧ node.station.registry.opened? 0 = some (.new 0 tree) ∧
      ∃ after held, node.run (.sendData 0) =
          (.failed (.device .queueFull), node.withStation after) ∧
        after.sent = [] ∧ after.sources.calls = [1, 1] ∧
        after.registry.opened? 0 = some held ∧
        held.tree.leaves[0]? = some ⟨["m"], "a", .number (number 7), some 1⟩ ∧
        held.tree.leaves[1]? = some ⟨["m"], "s", .text "on", none⟩ ∧
        held.tree.leaves[2]? = some ⟨["m"], "b", .number (number 8), some 1⟩ ∧
        after.registry.opened? 1 = some (.new 1 other) := by
  intro number tree other sources begun node
  have reachable : node.Reachable := ⟨true, sources, .failAfter 0 .queueFull, _, rfl⟩
  have found : node.station.registry.opened? 0 = some (.new 0 tree) := rfl
  have answered : (node.run (.sendData 0)).1 = .failed (.device .queueFull) := rfl
  obtain ⟨⟨outcome, after, ran, refreshed⟩, _⟩ := sending_refreshes_one_channel reachable found
  rw [ran] at answered
  obtain ⟨fetched, scratch, stored, leaves, sends⟩ := refreshed.stored
  cases sends with
  | unwritable error _ _ _ => cases answered
  | taken _ _ _ _ => cases answered
  | refused bytes error written refuses sent =>
      refine ⟨reachable, found, after, _, ran.trans (congrArg (·, _) answered), sent, ?_, stored,
        leaves.leaf [] _ _ rfl, leaves.leaf [_] _ _ rfl, leaves.leaf [_, _] _ _ rfl, ?_⟩
      · rw [refreshed.called]
        rfl
      · rw [refreshed.others 1 (by decide)]
        rfl

end Node

end Telemetry
