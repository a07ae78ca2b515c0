/-
What an end of a link has for what it holds of its peer and for what it hands over. Which
channels the peer has told of, and which of the channels opened here the peer has learned,
is known elsewhere and only grows; given both, an end that was on good grounds stays on
them, whatever its own program does and whatever its peer could send it.

An acknowledgement is the one packet that needs grounds. It is written from a channel of
the peer that is stored, or that was learned just now.
-/

import Telemetry.Proofs.Packet.Advertisement
import Telemetry.Proofs.Registry.Moving
import Telemetry.Proofs.Registry.Receiving
import Telemetry.Proofs.Registry.Truthful

namespace Telemetry

/-- Where a packet can come from at an end that knows these channels of its peer. -/
inductive Packet.Sourced (known : ChannelId → Prop) (packet : Bytes) : Prop where
  | advertisement (id : ChannelId) (tree : Part) (written : Packet.broadcast id tree = .ok packet)
  | values (id : ChannelId) (tree : Part) (written : Packet.data id tree = .ok packet)
  | acknowledgement (id : ChannelId) (learned : known id) (written : packet = Packet.acknowledge id)

namespace Packet.Sourced

variable {known later : ChannelId → Prop} {packet : Bytes} {id : ChannelId} {payload : Cursor}

private theorem mono (more : ∀ id, known id → later id) (sourced : Sourced known packet) :
    Sourced later packet := by
  cases sourced with
  | advertisement id tree written => exact .advertisement id tree written
  | values id tree written => exact .values id tree written
  | acknowledgement id learned written => exact .acknowledgement id (more id learned) written

/-- No packet of another kind passes for an acknowledgement. -/
private theorem learned_of_acknowledge (sourced : Sourced known packet)
    (opened : opened? packet = .ok ⟨⟨.broadcast, .acknowledge⟩, id, payload⟩) : known id := by
  cases sourced with
  | advertisement other tree written =>
      rw [(broadcast_eq_ok_iff.mp written).2, opened?_sealed] at opened
      cases opened
  | values other tree written =>
      rw [opened?_of_data written] at opened
      cases opened
  | acknowledgement other learned written =>
      rw [written, opened?_acknowledge] at opened
      cases opened
      exact learned

theorem broadcast_of_send (sourced : Sourced known packet)
    (opened : opened? packet = .ok ⟨⟨.broadcast, .send⟩, id, payload⟩) :
    ∃ tree, broadcast id tree = .ok packet := by
  cases sourced with
  | advertisement other tree written =>
      have same := opened
      rw [(broadcast_eq_ok_iff.mp written).2, opened?_sealed] at same
      cases same
      exact ⟨tree, written⟩
  | values other tree written =>
      rw [opened?_of_data written] at opened
      cases opened
  | acknowledgement other learned written =>
      rw [written, opened?_acknowledge] at opened
      cases opened

end Packet.Sourced

/-- A station that has this on good grounds: what it holds of its peer, that its peer has
learned the channels marked here, and what it has handed over. -/
structure Station.Founded {δ : Type} (known confirmed : ChannelId → Prop)
    (station : Station (Tapped δ)) : Prop where
  remote : ∀ id channel, station.registry.remote.get? id = some channel →
    channel.id = id ∧ known id
  acked : ∀ id channel, station.registry.opened? id = some channel → channel.acked = true →
    confirmed id
  handed : ∀ packet ∈ station.handed, Packet.Sourced known packet

namespace Station

variable {δ : Type} {known confirmed : ChannelId → Prop} {station after : Station (Tapped δ)}

theorem Founded.mono {later further : ChannelId → Prop} (founded : station.Founded known confirmed)
    (more : ∀ id, known id → later id) (moreConfirmed : ∀ id, confirmed id → further id) :
    station.Founded later further := by
  refine ⟨?_, ?_, ?_⟩
  · intro id channel stored
    obtain ⟨sameId, learned⟩ := founded.remote id channel stored
    exact ⟨sameId, more id learned⟩
  · intro id channel found acked
    exact moreConfirmed id (founded.acked id channel found acked)
  · intro packet member
    exact (founded.handed packet member).mono more

private theorem Founded.of_opened (founded : station.Founded known confirmed)
    (acked : ∀ id channel, after.registry.opened? id = some channel → channel.acked = true →
      confirmed id)
    (remote : after.registry.remote = station.registry.remote)
    (handed : after.handed = station.handed) : after.Founded known confirmed := by
  refine ⟨?_, acked, ?_⟩
  · rw [remote]
    exact founded.remote
  · rw [handed]
    exact founded.handed

private theorem Founded.setOpened (founded : station.Founded known confirmed) {id : ChannelId}
    {channel replacement : Channel} (found : station.registry.opened? id = some channel)
    (acked : replacement.acked = true → confirmed id) :
    (station.withRegistry (station.registry.setOpened id replacement)).Founded known confirmed := by
  apply founded.of_opened
  · exact Registry.forall_opened?_setOpened found acked founded.acked
  · rfl
  · rfl

private theorem Founded.insert (founded : station.Founded known confirmed) {id : ChannelId}
    (channel : Channel) (sameId : channel.id = id) (learned : known id)
    (remote : after.registry.remote = station.registry.remote.insert id channel)
    (opened : after.registry.opened = station.registry.opened)
    (handed : after.handed = station.handed) : after.Founded known confirmed := by
  refine ⟨?_, ?_, ?_⟩
  · rw [remote]
    exact ChannelTable.forall_get?_insert ⟨sameId, learned⟩ founded.remote
  · intro wanted other found
    unfold Registry.opened? at found
    rw [opened] at found
    exact founded.acked wanted other found
  · rw [handed]
    exact founded.handed

private theorem Founded.sourced (founded : station.Founded known confirmed) {packet : Bytes}
    (issued : station.registry.Issues packet) : Packet.Sourced known packet := by
  cases issued with
  | advertisement id channel found written =>
      exact .advertisement channel.id channel.tree written
  | values id channel held written => exact .values channel.id channel.tree written
  | acknowledgement id channel stored written =>
      obtain ⟨sameId, learned⟩ := founded.remote id channel stored
      rw [sameId] at written
      exact .acknowledgement id learned written

variable [Device δ]

private theorem Founded.transmit (founded : station.Founded known confirmed) {packet : Bytes}
    (sourced : Packet.Sourced known packet) :
    (station.transmit packet).2.Founded known confirmed := by
  refine ⟨?_, ?_, ?_⟩
  · rw [transmit_registry]
    exact founded.remote
  · rw [transmit_registry]
    exact founded.acked
  · rw [transmit_handed]
    exact List.forall_mem_append.mpr ⟨founded.handed, List.forall_mem_singleton.mpr sourced⟩

/-- Nothing a program does of its own accord needs new grounds. -/
theorem Founded.move {changes : Part → Part → Prop} (move : Move changes station after)
    (founded : station.Founded known confirmed) : after.Founded known confirmed := by
  cases move with
  | opening tree room =>
      apply founded.of_opened
      · exact Registry.forall_opened?_append room (fun impossible => nomatch impossible)
          founded.acked
      · rfl
      · rfl
  | rewriting id channel tree scratch found changed =>
      exact founded.setOpened found (founded.acked id channel found)
  | answering id channel scratch stored =>
      obtain ⟨sameId, learned⟩ := founded.remote id channel stored
      exact founded.insert { channel with scratch } sameId learned rfl rfl rfl
  | filling id channel tree stored =>
      obtain ⟨sameId, learned⟩ := founded.remote id channel stored
      exact founded.insert { channel with tree } sameId learned rfl rfl rfl
  | handing packet issued => exact founded.transmit (founded.sourced issued)
  | drawing sources => exact ⟨founded.remote, founded.acked, founded.handed⟩

private theorem Founded.learn (founded : station.Founded known confirmed) {id : ChannelId}
    (learned : known id) (tree : Part) : (station.learn id tree).2.Founded known confirmed := by
  have begun : (station.withRegistry station.registry.startOver).Founded known confirmed := by
    refine ⟨?_, ?_, founded.handed⟩
    · intro wanted channel stored
      exact founded.remote wanted channel (Registry.startOver_get? stored)
    · intro wanted channel found
      have opened : station.registry.startOver.opened? wanted = some channel := found
      unfold Registry.opened? at opened
      rw [Registry.startOver_opened] at opened
      exact founded.acked wanted channel opened
  -- The acknowledgement goes out before there is a channel to write it from.
  unfold Station.learn
  split
  · have answered := begun.transmit (.acknowledgement id learned rfl)
    exact answered.insert (Channel.new id tree).acknowledgePacket.2 rfl learned rfl rfl rfl
  · exact begun.insert (Channel.new id tree) rfl learned rfl rfl rfl

/-- A packet of the peer leaves this end on good grounds if the peer had handed it over on
good grounds. -/
theorem Founded.receive (founded : station.Founded known confirmed) {packet : Bytes}
    (sourced : Packet.Sourced confirmed packet)
    (learned : ∀ id tree, Packet.readBroadcast packet = .ok (id, tree) → known id) :
    (station.receive packet).2.Founded known confirmed := by
  have outcome := station.receive_outcome packet
  generalize station.receive packet = result at outcome
  cases outcome with
  | refused error => exact founded
  | learned id tree read => exact founded.learn (learned id tree read) tree
  | filled id payload stored tree opened held fills =>
      obtain ⟨sameId, learnedBefore⟩ := founded.remote id stored held
      exact founded.insert { stored with tree } sameId learnedBefore rfl rfl rfl
  | acknowledged id payload channel opened found =>
      exact founded.setOpened found fun _ => sourced.learned_of_acknowledge opened
  | ignored => exact founded

theorem receive_of_readBroadcast {packet : Bytes} {id : ChannelId} {tree : Part}
    (read : Packet.readBroadcast packet = .ok (id, tree)) (station : Station δ) :
    station.receive packet =
      (.ok ⟨.schemaLearned id, some (station.learn id tree).1⟩, (station.learn id tree).2) := by
  obtain ⟨payload, opened, schema⟩ := Packet.opened?_of_readBroadcast read
  unfold receive
  rw [opened]
  simp only
  unfold receiveBroadcast
  rw [schema]

theorem receive_handed_mem {packet other : Bytes} (member : other ∈ station.handed) :
    other ∈ (station.receive packet).2.handed := by
  have outcome := station.receive_outcome packet
  generalize station.receive packet = result at outcome
  cases outcome with
  | learned id tree read =>
      rw [learn_handed]
      exact List.mem_append_left _ member
  | _ => exact member

theorem Move.handed_mem {changes : Part → Part → Prop} (move : Move changes station after)
    {packet : Bytes} (member : packet ∈ station.handed) : packet ∈ after.handed := by
  cases move with
  | handing other issued =>
      rw [transmit_handed]
      exact List.mem_append_left _ member
  | _ => exact member

end Station

end Telemetry
