/-
Advertising many channels in a row. Each is refreshed and advertised in its turn, and at the
first whose advertisement cannot be written or is refused the round stops: those before it
have been sent, it and those behind it have not. A channel that is still to come is untouched
by those before it, since no two share a number.

The rounds a registry offers go through all of its channels or through those that are not
acknowledged, in the order of their numbers.
-/

import Telemetry.Proofs.Registry.Refreshing

namespace Telemetry

/-- A device that is handed these packets takes each of them. -/
inductive Device.Takes {δ : Type} [Device δ] : δ → List Bytes → δ → Prop where
  | nothing (device : δ) : Takes device [] device
  | more {device next last : δ} {packet : Bytes} {rest : List Bytes}
      (taken : Device.send packet device = (.ok (), next)) (later : Takes next rest last) :
      Takes device (packet :: rest) last

namespace Channel

/-- What is written of a channel once it has been refreshed is written of it as it was. -/
private theorem broadcast_eq_of_refreshed {channel : Channel} {tree : Part}
    (same : tree.blank = channel.tree.blank) :
    Packet.broadcast channel.id channel.tree =
      ((PacketWriter.putSchema tree).on []).1.map fun _ =>
        Packet.sealed (Packet.preamble .broadcast .send channel.id ++
          ((PacketWriter.putSchema tree).on []).2) := by
  rw [Packet.broadcast, ← Part.blank_schemaItems channel.tree, ← same, Part.blank_schemaItems,
    PacketWriter.appends_putSchema tree [], List.nil_append, Packet.carrying, WireItem.encode]
  cases WireItem.write tree.schemaItems with
  | mk bytes outcome => cases outcome <;> rfl

private theorem advertisement_of_refreshed {channel : Channel} {tree : Part} {bytes : Bytes}
    (same : tree.blank = channel.tree.blank)
    (written : (PacketWriter.putSchema tree).on [] = (.ok (), bytes)) :
    Packet.broadcast channel.id channel.tree = .ok channel.advertisement ∧
      Packet.sealed (Packet.preamble .broadcast .send channel.id ++ bytes) =
        channel.advertisement := by
  have packet := broadcast_eq_of_refreshed same
  rw [written] at packet
  have whole := (Packet.broadcast_eq_ok_iff.mp packet).2
  exact ⟨packet.trans (congrArg Except.ok whole), whole⟩

end Channel

namespace Registry

private theorem Numbered.map_place {registry : Registry} (numbered : registry.Numbered) :
    registry.opened.map (fun channel => channel.id.toNat) =
      List.range registry.opened.length := by
  have ids := congrArg (List.map UInt8.toNat) numbered.map_id
  rw [openedIds, List.map_map, List.map_map] at ids
  refine ids.trans ?_
  refine (List.map_congr_left fun place inside => ?_).trans (List.map_id _)
  exact place_toNat numbered.few (List.mem_range.mp inside)

private theorem Numbered.distinct {registry : Registry} (numbered : registry.Numbered) :
    (registry.opened.map Channel.id).Nodup := by
  rw [numbered.map_id]
  exact openedIds_nodup numbered.few

theorem Numbered.ascending {registry : Registry} (numbered : registry.Numbered) :
    registry.opened.Pairwise fun first second => first.id.toNat < second.id.toNat := by
  apply List.pairwise_map.mp
  rw [numbered.map_place]
  exact List.pairwise_lt_range

end Registry

namespace Station

variable {δ : Type} [Device δ]

/-- What a round comes to, with the channels that are left when it stops. -/
inductive Stops (device : δ) : List Channel → Except RegistryError Unit → δ → Prop where
  | finished : Stops device [] (.ok ()) device
  | unwritable (channel : Channel) (later : List Channel) (error : EncodeError)
      (fails : Packet.broadcast channel.id channel.tree = .error error) :
      Stops device (channel :: later) (.error (.encode error)) device
  | refused (channel : Channel) (later : List Channel) (error : DeviceError) (last : δ)
      (written : Packet.broadcast channel.id channel.tree = .ok channel.advertisement)
      (refuses : Device.send channel.advertisement device = (.error error, last)) :
      Stops device (channel :: later) (.error (.device error)) last

/-- These channels were to be advertised one after the other, with this outcome. -/
structure Advertises (queue : List Channel) (before after : Station δ)
    (outcome : Except RegistryError Unit) : Prop where
  sends : ∃ done rest device, queue = done ++ rest ∧
    (∀ channel ∈ done,
      Packet.broadcast channel.id channel.tree = .ok channel.advertisement) ∧
    after.sent = before.sent ++ done.map Channel.advertisement ∧
    Device.Takes before.device (done.map Channel.advertisement) device ∧
    Stops device rest outcome after.device ∧
    after.sources =
      before.sources.called ((done ++ rest.take 1).flatMap fun channel => channel.tree.sourceIds)
  /-- The channels stand in the same order with the same numbers and schemas, and those
  acknowledged are the same. -/
  standings : after.registry.standings = before.registry.standings
  remote : after.registry.remote = before.registry.remote
  dataMode : after.registry.dataMode = before.registry.dataMode
  acknowledges : after.registry.acknowledges = before.registry.acknowledges

private theorem advertises_nothing (station : Station δ) :
    Advertises [] station station (.ok ()) where
  sends := ⟨[], [], station.device, rfl, List.forall_mem_nil _, (List.append_nil _).symm,
    .nothing _, .finished, rfl⟩
  standings := rfl
  remote := rfl
  dataMode := rfl
  acknowledges := rfl

variable {before middle after : Station δ} {channel : Channel} {rest : List Channel}
  {outcome : Except RegistryError Unit}

/-- A round whose first channel is not sent is over. -/
private theorem SendsRefreshed.stops
    (refreshed : SendsRefreshed .broadcast PacketWriter.putSchema channel.id channel before after
      outcome)
    (sent : after.sent = before.sent)
    (stops : Stops before.device (channel :: rest) outcome after.device) :
    Advertises (channel :: rest) before after outcome where
  sends := by
    refine ⟨[], channel :: rest, before.device, rfl, List.forall_mem_nil _, ?_, .nothing _,
      stops, ?_⟩
    · rw [sent, List.map_nil, List.append_nil]
    · rw [refreshed.called, List.nil_append, List.take_succ_cons, List.take_zero,
        List.flatMap_singleton]
  standings := refreshed.standings
  remote := refreshed.remote
  dataMode := refreshed.dataMode
  acknowledges := refreshed.acknowledges

/-- A round goes on behind a channel that is sent. -/
private theorem SendsRefreshed.goes_on
    (refreshed : SendsRefreshed .broadcast PacketWriter.putSchema channel.id channel before middle
      (.ok ()))
    (written : Packet.broadcast channel.id channel.tree = .ok channel.advertisement)
    (takes : Device.send channel.advertisement before.device = (.ok (), middle.device))
    (sent : middle.sent = before.sent ++ [channel.advertisement])
    (later : Advertises rest middle after outcome) :
    Advertises (channel :: rest) before after outcome where
  sends := by
    obtain ⟨done, left, device, split, writable, sentLater, taken, stops, called⟩ := later.sends
    refine ⟨channel :: done, left, device, ?_, ?_, ?_, .more takes taken, stops, ?_⟩
    · rw [split, List.cons_append]
    · exact List.forall_mem_cons.mpr ⟨written, writable⟩
    · rw [sentLater, sent, List.append_assoc]
      rfl
    · rw [called, refreshed.called, ← Sources.called_append]
      rfl
  standings := later.standings.trans refreshed.standings
  remote := later.remote.trans refreshed.remote
  dataMode := later.dataMode.trans refreshed.dataMode
  acknowledges := later.acknowledges.trans refreshed.acknowledges

theorem broadcastEach_advertises {queue : List Channel} {station : Station δ}
    (distinct : (queue.map Channel.id).Nodup)
    (offered : ∀ channel ∈ queue, station.registry.opened? channel.id = some channel) :
    ∃ outcome after, station.broadcastEach (queue.map Channel.id) = (outcome, after) ∧
      Advertises queue station after outcome := by
  induction queue generalizing station with
  | nil => exact ⟨.ok (), station, rfl, advertises_nothing station⟩
  | cons channel rest ih =>
      rw [List.map_cons, List.nodup_cons] at distinct
      obtain ⟨found, foundRest⟩ := List.forall_mem_cons.mp offered
      obtain ⟨outcome, middle, sending, refreshed⟩ := broadcastChannel_sendsRefreshed found rfl
      obtain ⟨tree, scratch, _, leaves, sends⟩ := refreshed.stored
      have same := Part.blank_eq_of_clear_eq leaves.clear
      rw [List.map_cons, broadcastEach, sending]
      cases sends with
      | unwritable error fails untouched sent =>
          have packet := Channel.broadcast_eq_of_refreshed same
          rw [fails] at packet
          have stops : Stops station.device (channel :: rest) (.error (.encode error))
              middle.device := untouched ▸ .unwritable channel rest error packet
          exact ⟨_, middle, rfl, refreshed.stops sent stops⟩
      | refused bytes error written refuses sent =>
          obtain ⟨packet, whole⟩ := Channel.advertisement_of_refreshed same written
          rw [whole] at refuses
          exact ⟨_, middle, rfl,
            refreshed.stops sent (.refused channel rest error _ packet refuses)⟩
      | taken bytes written takes sent =>
          obtain ⟨packet, whole⟩ := Channel.advertisement_of_refreshed same written
          rw [whole] at takes sent
          have stillOffered : ∀ other ∈ rest,
              middle.registry.opened? other.id = some other := by
            intro other member
            have different : other.id ≠ channel.id := fun same =>
              distinct.1 (same ▸ List.mem_map_of_mem member)
            rw [refreshed.others other.id different]
            exact foundRest other member
          obtain ⟨last, after, sendingRest, later⟩ := ih distinct.2 stillOffered
          exact ⟨last, after, sendingRest, refreshed.goes_on packet takes sent later⟩

theorem broadcastAll_advertises {station : Station δ} (numbered : station.registry.Numbered) :
    ∃ outcome after, station.broadcastAll = (outcome, after) ∧
      Advertises station.registry.opened station after outcome := by
  unfold broadcastAll
  rw [← numbered.map_id]
  exact broadcastEach_advertises numbered.distinct fun channel member =>
    numbered.opened?_id member

theorem broadcastUnacked_advertises {station : Station δ}
    (numbered : station.registry.Numbered) :
    let unacked := station.registry.opened.filter fun channel => channel.acked == false
    ∃ outcome after,
      station.broadcastUnacked = (outcome.map fun _ => unacked.length, after) ∧
      Advertises unacked station after outcome := by
  intro unacked
  have within : unacked.Sublist station.registry.opened := List.filter_sublist
  obtain ⟨outcome, after, sending, advertises⟩ := broadcastEach_advertises
    (numbered.distinct.sublist (within.map Channel.id)) fun channel member =>
      numbered.opened?_id (within.subset member)
  have ids : station.registry.ackedIds false = unacked.map Channel.id := rfl
  refine ⟨outcome, after, ?_, advertises⟩
  unfold broadcastUnacked
  simp [ids, sending]

end Station

namespace Node

open Station (Advertises)

variable {δ ρ : Type} [Device δ]

/-- Advertising all channels goes through the numbers from zero on, and advertising those that
are not acknowledged through theirs, from the lowest on. Up to the channel where it stops there
is one packet for each, of its number and its schema; where it does not stop there is one for
all. What is known about the channels stays as it is. -/
theorem rounds_of_advertisements {node : Node δ ρ} (reachable : node.Reachable) :
    let registry := node.station.registry
    let unacked := registry.opened.filter fun channel => channel.acked == false
    registry.opened.length ≤ 256 ∧
    registry.opened.map (fun channel => channel.id.toNat) = List.range registry.opened.length ∧
    (unacked.Pairwise fun first second => first.id.toNat < second.id.toNat) ∧
    (∃ outcome after,
      node.run .broadcastAll =
        (.ofResult (fun _ => .nothing) outcome, node.withStation after) ∧
      Advertises registry.opened node.station after outcome) ∧
    ∃ outcome after,
      node.run .broadcastUnacked =
        (.ofResult (fun _ => .count unacked.length) outcome, node.withStation after) ∧
      Advertises unacked node.station after outcome := by
  intro registry unacked
  have numbered := reachable.numbered
  refine ⟨numbered.few, numbered.map_place, numbered.ascending.sublist List.filter_sublist, ?_, ?_⟩
  · obtain ⟨outcome, after, sending, advertises⟩ := Station.broadcastAll_advertises numbered
    exact ⟨outcome, after, congrArg (node.finish fun _ => .nothing) sending, advertises⟩
  · obtain ⟨outcome, after, sending, advertises⟩ := Station.broadcastUnacked_advertises numbered
    refine ⟨outcome, after, ?_, advertises⟩
    rw [run, perform, sending]
    cases outcome <;> rfl

/-- The second of three channels is acknowledged, and the device takes one more packet. -/
theorem rounds_of_advertisements_stopped :
    let first : Channel := .new 0 (.text "a" "" none)
    let second : Channel := { Channel.new 1 (.text "b" "" none) with acked := true }
    let third : Channel := .new 2 (.text "c" "" none)
    let registry : Registry := { acknowledges := false, opened := [first, second, third] }
    let device : MemoryDevice := .failAfter 1 .closed
    let node : Node MemoryDevice Unit := { station := { registry, sources := .empty, device } }
    node.Reachable ∧
      ∃ after, node.run .broadcastUnacked = (.failed (.device .closed), node.withStation after) ∧
        after.sent = [first.advertisement] ∧
        after.registry.standings = [first.standing, second.standing, third.standing] := by
  intro first second third registry device node
  let trees := [first.tree, second.tree, third.tree]
  let opened : Node MemoryDevice Unit :=
    (fresh false .empty device).turn (.ask (.openChannels trees))
  have reachable : node.Reachable := by
    refine ⟨false, .empty, device,
      [.ask (.openChannels trees), .ask (.receive (Packet.acknowledge 1))], ?_⟩
    change node = (settle (Node.react occasionCount) opened
      (opened.station.receive (Packet.acknowledge 1))).2
    rw [Station.receive_acknowledge]
    rfl
  have answered : (node.run .broadcastUnacked).1 = .failed (.device .closed) := rfl
  have counted : (node.run .broadcastUnacked).2.station.sent.length = 1 := rfl
  obtain ⟨_, _, _, _, outcome, after, ran, advertises⟩ := rounds_of_advertisements reachable
  obtain ⟨done, rest, last, split, _, sent, _⟩ := advertises.sends
  rw [ran] at answered counted
  have alone : done = [first] := by
    have queue : [first, third] = done ++ rest := split
    have single : done.length = 1 := by
      have sentLength := congrArg List.length sent
      rw [List.length_append, List.length_map] at sentLength
      exact (Nat.zero_add _).symm.trans (sentLength.symm.trans counted)
    rw [← List.take_left' single, ← queue]
    rfl
  refine ⟨reachable, after, ran.trans (congrArg (·, _) answered), ?_, advertises.standings⟩
  rw [sent, alone]
  rfl

end Node

end Telemetry
