/-
One advertising round over a network that loses nothing. The sender advertises all its
channels, the receiver takes in the advertisements and acknowledges each, and the sender
takes in the acknowledgements; whatever one end hands over arrives at the other. They
agree at the end, whatever state they were in: the first advertisement may make the
receiver forget what it knew, those behind it do not, and each acknowledgement marks the
channel it is for.
-/

import Telemetry.Proofs.Registry.Advertising
import Telemetry.Proofs.Registry.Quiet
import Telemetry.Proofs.Registry.Receiving

namespace Telemetry

variable {δ ε ρ σ : Type}

/-- What a station that answers comes to by taking in the advertisements of these
channels. -/
structure Station.Taught (channels : List Channel) (before after : Station (Tapped ε)) :
    Prop where
  handed : after.handed =
    before.handed ++ channels.map fun channel => Packet.acknowledge channel.id
  dataMode : after.registry.dataMode = (channels.isEmpty && before.registry.dataMode)
  learned : ∀ channel ∈ channels, ∃ stored,
    after.registry.startOver.remote.get? channel.id = some stored ∧
      stored.tree = channel.tree.blank
  others : ∀ id, id ∉ channels.map Channel.id →
    after.registry.startOver.remote.get? id = before.registry.startOver.remote.get? id

namespace Station

section

variable {channels : List Channel} {before after : Station (Tapped ε)}

private theorem Taught.nothing (station : Station (Tapped ε)) : Taught [] station station where
  handed := (List.append_nil station.handed).symm
  dataMode := rfl
  learned := by
    intro channel member
    cases member
  others := fun _ _ => rfl

private theorem Taught.settled (taught : Taught channels before after) (inhabited : channels ≠ []) :
    after.registry.dataMode = false := by
  rw [taught.dataMode, List.isEmpty_eq_false_iff.mpr inhabited, Bool.false_and]

private theorem Taught.known (taught : Taught channels before after) {channel : Channel}
    (member : channel ∈ channels) :
    ∃ stored, after.registry.remote.get? channel.id = some stored ∧
      stored.tree = channel.tree.blank := by
  obtain ⟨stored, known, same⟩ := taught.learned channel member
  exact ⟨stored, Registry.startOver_get? known, same⟩

private theorem Taught.kept (taught : Taught channels before after) (inhabited : channels ≠ [])
    {id : ChannelId} (absent : id ∉ channels.map Channel.id) :
    after.registry.remote.get? id =
      if before.registry.dataMode then none else before.registry.remote.get? id := by
  have kept := taught.others id absent
  rw [Registry.startOver_of_settled (taught.settled inhabited)] at kept
  rw [kept]
  unfold Registry.startOver
  split <;> rfl

end

private theorem receiveAcknowledge_isAcked {station : Station ε} {id : ChannelId}
    (known : id.toNat < station.registry.opened.length) (wanted : ChannelId) :
    (station.receiveAcknowledge id).2.registry.isAcked wanted = true ↔
      wanted = id ∨ station.registry.isAcked wanted = true := by
  have found : station.registry.opened? id = some station.registry.opened[id.toNat] :=
    List.getElem?_eq_getElem known
  unfold receiveAcknowledge
  rw [found]
  unfold Registry.isAcked
  rw [withRegistry_registry, Registry.opened?_setOpened found]
  by_cases same : wanted = id
  · rw [if_pos same]
    exact iff_of_true rfl (Or.inl same)
  · rw [if_neg same]
    exact ⟨Or.inr, fun acked => acked.resolve_left same⟩

@[simp]
theorem receiveAcknowledge_length (station : Station ε) (id : ChannelId) :
    (station.receiveAcknowledge id).2.registry.opened.length =
      station.registry.opened.length := by
  unfold receiveAcknowledge
  split <;> simp

variable [Device ε]

private theorem receive_advertisement {channel : Channel} (fit : channel.tree.Advertisable)
    (station : Station ε) :
    station.receive channel.advertisement =
      (.ok ⟨.schemaLearned channel.id, some (station.learn channel.id channel.tree.blank).1⟩,
        (station.learn channel.id channel.tree.blank).2) :=
  receive_broadcast fit (Packet.broadcast_eq_ok fit.plainNames) station

@[simp]
theorem learn_settled (station : Station ε) (id : ChannelId) (tree : Part) :
    (station.learn id tree).2.registry.dataMode = false := by
  obtain ⟨scratch, _, registry⟩ := station.learn_registry id tree
  simp [registry]

/-- Where another advertisement follows, what was learned just now is not forgotten. -/
private theorem learn_startOver_get? (station : Station ε) (id wanted : ChannelId) (tree : Part) :
    (station.learn id tree).2.registry.startOver.remote.get? wanted =
      if wanted = id then some (station.learn id tree).1
      else station.registry.startOver.remote.get? wanted := by
  have kept : (station.learn id tree).2.registry.startOver = (station.learn id tree).2.registry :=
    Registry.startOver_of_settled (station.learn_settled id tree)
  rw [kept, learn_remote, ChannelTable.get?_insert]

@[simp]
theorem learn_acknowledges (station : Station ε) (id : ChannelId) (tree : Part) :
    (station.learn id tree).2.registry.acknowledges = station.registry.acknowledges := by
  obtain ⟨scratch, _, registry⟩ := station.learn_registry id tree
  simp [registry]

/-- The channel taken in first stays known, for no other of these has its number. -/
private theorem Taught.cons {channel : Channel} {channels : List Channel}
    {before after : Station (Tapped ε)} (answers : before.registry.acknowledges = true)
    (another : channel.id ∉ channels.map Channel.id)
    (taught : Taught channels (before.learn channel.id channel.tree.blank).2 after) :
    Taught (channel :: channels) before after := by
  refine ⟨?_, ?_, ?_, ?_⟩
  · rw [taught.handed, learn_handed, if_pos answers, List.append_assoc]
    rfl
  · rw [taught.dataMode, learn_settled, Bool.and_false]
    rfl
  · intro other member
    rcases List.mem_cons.mp member with same | later
    · refine ⟨(before.learn channel.id channel.tree.blank).1, ?_, ?_⟩
      · rw [same, taught.others channel.id another, learn_startOver_get?, if_pos rfl]
      · rw [same, learn_tree]
    · exact taught.learned other later
  · intro id absent
    rw [List.map_cons, List.mem_cons, not_or] at absent
    rw [taught.others id absent.2, learn_startOver_get?, if_neg absent.1]

end Station

namespace Node

variable [Device δ] [Device ε]

/-- Advertisements of different channels, taken in one after the other. -/
theorem Quiet.taught {receiver : Node (Tapped ε) σ} (quiet : receiver.Quiet)
    (answers : receiver.station.registry.acknowledges = true) {channels : List Channel}
    (fit : ∀ channel ∈ channels, channel.tree.Advertisable)
    (different : (channels.map Channel.id).Nodup) :
    Station.Taught channels receiver.station
      (receiver.runAll (channels.map fun channel => .receive channel.advertisement)).2.station := by
  induction channels generalizing receiver with
  | nil => exact .nothing receiver.station
  | cons channel rest ih =>
      obtain ⟨fitHere, fitRest⟩ := List.forall_mem_cons.mp fit
      obtain ⟨another, differentRest⟩ := List.nodup_cons.mp different
      obtain ⟨station, stillQuiet⟩ := quiet.run_receive channel.advertisement
      rw [Station.receive_advertisement fitHere] at station
      have stillAnswers :
          (receiver.run (.receive channel.advertisement)).2.station.registry.acknowledges =
            true := by
        rw [station, Station.learn_acknowledges]
        exact answers
      have taught := ih stillQuiet stillAnswers fitRest differentRest
      rw [station] at taught
      exact taught.cons answers another

/-- Acknowledgements taken in one after the other mark the channels they are for and no
others. -/
theorem runAll_acknowledgements {node : Node δ ρ} {ids : List ChannelId}
    (known : ∀ id ∈ ids, id.toNat < node.station.registry.opened.length) :
    let informed := (node.runAll (ids.map fun id => .receive (Packet.acknowledge id))).2
    informed.station.registry.opened.length = node.station.registry.opened.length ∧
      ∀ wanted, informed.station.registry.isAcked wanted = true ↔
        wanted ∈ ids ∨ node.station.registry.isAcked wanted = true := by
  induction ids generalizing node with
  | nil =>
      refine ⟨rfl, fun wanted => ?_⟩
      rw [List.mem_nil_iff, false_or]
      rfl
  | cons id rest ih =>
      obtain ⟨here, knownRest⟩ := List.forall_mem_cons.mp known
      let marked := (node.run (.receive (Packet.acknowledge id))).2
      have station : marked.station = (node.station.receiveAcknowledge id).2 := by
        show (node.run (.receive (Packet.acknowledge id))).2.station = _
        rw [run_acknowledgement]
        rfl
      have sameLength :
          marked.station.registry.opened.length = node.station.registry.opened.length := by
        rw [station, Station.receiveAcknowledge_length]
      have stillKnown : ∀ id ∈ rest, id.toNat < marked.station.registry.opened.length := by
        rw [sameLength]
        exact knownRest
      obtain ⟨length, acked⟩ := ih stillKnown
      refine ⟨length.trans sameLength, fun wanted => (acked wanted).trans ?_⟩
      rw [station, Station.receiveAcknowledge_isAcked here, List.mem_cons, or_left_comm, or_assoc]

/-- When every channel has been acknowledged there is nothing left to advertise. -/
theorem Reachable.informed {node : Node δ ρ} (reachable : node.Reachable) :
    let informed := (node.runAll
      (node.station.registry.openedIds.map fun id => .receive (Packet.acknowledge id))).2
    informed.station.registry.opened.length = node.station.registry.opened.length ∧
      (∀ channel ∈ informed.station.registry.opened, channel.acked = true) ∧
      informed.run .broadcastUnacked = (.count 0, informed) := by
  intro informed
  have numbered : informed.station.registry.Numbered := (reachable.runAll _).numbered
  obtain ⟨sameLength, acked⟩ := runAll_acknowledgements fun id member =>
    (Registry.mem_openedIds_iff reachable.numbered.few).mp member
  have allAcked : ∀ channel ∈ informed.station.registry.opened, channel.acked = true := by
    intro channel member
    have found := numbered.opened?_id member
    have inside : channel.id.toNat < informed.station.registry.opened.length :=
      (List.getElem?_eq_some_iff.mp found).1
    rw [sameLength] at inside
    have wanted := (Registry.mem_openedIds_iff reachable.numbered.few).mpr inside
    obtain ⟨same, foundSame, marked⟩ :=
      Registry.isAcked_iff.mp ((acked channel.id).mpr (Or.inl wanted))
    rw [found, Option.some.injEq] at foundSame
    rw [foundSame]
    exact marked
  refine ⟨sameLength, allAcked, ?_⟩
  unfold Node.run perform finish
  rw [Station.broadcastUnacked_of_acked allAcked]
  rfl

theorem Reachable.advertised {sender : Node (Tapped δ) ρ} (reachable : sender.Reachable)
    (takes : Device.TakesAll sender.station.device)
    (fit : ∀ channel ∈ sender.station.registry.opened, channel.tree.Advertisable) :
    (sender.run .broadcastAll).1 = .nothing ∧
      (sender.run .broadcastAll).2.station.handed =
        sender.station.handed ++ sender.station.registry.opened.map Channel.advertisement ∧
      (sender.run .broadcastAll).2.station.registry.opened.length =
        sender.station.registry.opened.length := by
  obtain ⟨sent, sending, handed, standings⟩ := Station.broadcastAll_taken reachable.numbered takes
    fun channel member => (fit channel member).plainNames
  have run : sender.run .broadcastAll = (.nothing, sender.withStation sent) := by
    unfold Node.run perform finish
    rw [sending]
    rfl
  rw [run]
  exact ⟨rfl, handed, Registry.length_of_standings standings⟩

/-- After one round both ends agree, over any devices as long as the sender's takes its
packets, and whatever the receiver has been through before. -/
theorem advertising_round {sender : Node (Tapped δ) ρ} {receiver : Node (Tapped ε) σ}
    (reachable : sender.Reachable) (inhabited : sender.station.registry.opened ≠ [])
    (fit : ∀ channel ∈ sender.station.registry.opened, channel.tree.Advertisable)
    (takes : Device.TakesAll sender.station.device)
    (answers : receiver.station.registry.acknowledges = true) (quiet : receiver.Quiet) :
    let opened := sender.station.registry.opened
    let advertised := (sender.run .broadcastAll).2
    let packets := advertised.station.handed.drop sender.station.handed.length
    let taught := (receiver.runAll (packets.map .receive)).2
    let replies := taught.station.handed.drop receiver.station.handed.length
    let informed := (advertised.runAll (replies.map .receive)).2
    (sender.run .broadcastAll).1 = .nothing ∧
      taught.station.handed =
        receiver.station.handed ++ opened.map (fun channel => Packet.acknowledge channel.id) ∧
      taught.station.registry.dataMode = false ∧
      (∀ id channel, sender.station.registry.opened? id = some channel →
        ∃ learned, taught.station.registry.remote.get? id = some learned ∧
          learned.tree.sameSchema channel.tree = true ∧
          ∀ value ∈ learned.tree.values, value.isUnset = true) ∧
      (∀ id, opened.length ≤ id.toNat →
        taught.station.registry.remote.get? id =
          if receiver.station.registry.dataMode then none
          else receiver.station.registry.remote.get? id) ∧
      informed.station.registry.opened.length = opened.length ∧
      (∀ channel ∈ informed.station.registry.opened, channel.acked = true) ∧
      informed.run .broadcastUnacked = (.count 0, informed) := by
  intro opened advertised packets taught replies informed
  have numbered := reachable.numbered
  obtain ⟨outcome, handed, sameLength⟩ := reachable.advertised takes fit
  have packetsHanded : packets = opened.map Channel.advertisement := by
    show (sender.run .broadcastAll).2.station.handed.drop _ = _
    rw [handed, List.drop_left]
  have different : (opened.map Channel.id).Nodup := by
    rw [numbered.map_id]
    exact Registry.openedIds_nodup numbered.few
  have teaching : Station.Taught opened receiver.station taught.station := by
    show Station.Taught opened receiver.station (receiver.runAll (packets.map .receive)).2.station
    rw [packetsHanded, List.map_map]
    exact quiet.taught answers fit different
  have repliesHanded : replies = advertised.station.registry.openedIds.map Packet.acknowledge := by
    show taught.station.handed.drop _ = _
    rw [teaching.handed, List.drop_left, Registry.openedIds, sameLength]
    show _ = sender.station.registry.openedIds.map Packet.acknowledge
    rw [← numbered.map_id, List.map_map]
    rfl
  have informing : informed = (advertised.runAll (advertised.station.registry.openedIds.map
      fun id => .receive (Packet.acknowledge id))).2 := by
    show (advertised.runAll (replies.map .receive)).2 = _
    rw [repliesHanded, List.map_map]
    rfl
  obtain ⟨informedLength, acked, nothing⟩ := (reachable.run .broadcastAll).informed
  rw [← informing] at informedLength acked nothing
  refine ⟨outcome, teaching.handed, teaching.settled inhabited, ?_, ?_,
    informedLength.trans sameLength, acked, nothing⟩
  · intro id channel found
    obtain ⟨learned, known, same⟩ := teaching.known (List.mem_of_getElem? found)
    rw [numbered.own id channel found] at known
    refine ⟨learned, known, ?_, ?_⟩
    · rw [Part.sameSchema_iff_blank, same, Part.blank_blank]
    · rw [same]
      exact Part.blank_values channel.tree
  · intro id beyond
    apply teaching.kept inhabited
    rw [numbered.map_id, Registry.mem_openedIds_iff numbered.few]
    exact Nat.not_lt.mpr beyond

/-- A receiver that has had data knows two channels, one of them under a number that is
advertised with another schema. -/
theorem advertising_round_after_data :
    let engine := Part.record "m" [.number "rpm" (.zero .int32) none, .text "s" "on" (some 1)]
    let gauge := Part.text "g" "full" none
    let started : Node (Tapped MemoryDevice) Unit := fresh false .empty { device := .sound }
    let sender := (started.run (.openChannels [engine, gauge])).2
    let registry : Registry :=
      { remote := .insert (.insert .empty 1 (.new 1 engine)) 9 (.new 9 gauge), dataMode := true }
    let receiver : Node (Tapped MemoryDevice) Unit :=
      { station := { registry, sources := .empty, device := { device := .sound } }
        onBroadcast := some ⟨none, none⟩ }
    let advertised := (sender.run .broadcastAll).2
    let packets := advertised.station.handed.drop sender.station.handed.length
    let taught := (receiver.runAll (packets.map .receive)).2
    let replies := taught.station.handed.drop receiver.station.handed.length
    let informed := (advertised.runAll (replies.map .receive)).2
    replies = [Packet.acknowledge 0, Packet.acknowledge 1] ∧
      (∃ learned, taught.station.registry.remote.get? 1 = some learned ∧
        learned.tree.sameSchema gauge = true) ∧
      taught.station.registry.remote.get? 9 = none ∧
      informed.run .broadcastUnacked = (.count 0, informed) := by
  intro engine gauge started sender registry receiver
  have reachable : sender.Reachable :=
    ⟨false, .empty, { device := .sound }, [.ask (.openChannels [engine, gauge])], rfl⟩
  have opened : sender.station.registry.opened = [.new 0 engine, .new 1 gauge] := rfl
  have fit : ∀ channel ∈ sender.station.registry.opened, channel.tree.Advertisable := by
    rw [opened, List.forall_mem_cons, List.forall_mem_singleton]
    exact ⟨⟨by decide, by decide, by decide⟩, ⟨by decide, by decide, by decide⟩⟩
  have takes : Device.TakesAll sender.station.device := Device.takesAll_sound.tapped
  have quiet : receiver.Quiet := by
    intro occasion callback installed
    cases occasion with
    | broadcast =>
        cases installed
        rfl
    | data => cases installed
  obtain ⟨_, handed, _, known, kept, _, _, nothing⟩ :=
    advertising_round reachable (List.cons_ne_nil _ _) fit takes rfl quiet
  obtain ⟨learned, stored, same, _⟩ := known 1 (.new 1 gauge) rfl
  refine ⟨?_, ⟨learned, stored, same⟩, (kept 9 (by decide)).trans (if_pos rfl), nothing⟩
  rw [handed, List.drop_left]
  rfl

end Node

end Telemetry
