/-
Advertising over a device that takes every packet, and from channels whose names can be
written. Nothing stops a round then, so there is an advertisement for each channel.
-/

import Telemetry.Device.Memory
import Telemetry.Proofs.Registry.Bulk

namespace Telemetry

namespace Device

variable {δ : Type} [Device δ]

def sendAll (device : δ) : List Bytes → δ
  | [] => device
  | packet :: rest => sendAll (send packet device).2 rest

/-- The device takes what it is handed, now and whatever it was handed before. -/
def TakesAll (device : δ) : Prop :=
  ∀ packets packet, (send packet (sendAll device packets)).1 = .ok ()

theorem TakesAll.later {device : δ} (takes : TakesAll device) (packet : Bytes) :
    TakesAll (send packet device).2 :=
  fun packets next => takes (packet :: packets) next

@[simp]
theorem sendAll_tapped (tapped : Tapped δ) (packets : List Bytes) :
    (sendAll tapped packets).device = sendAll tapped.device packets := by
  induction packets generalizing tapped with
  | nil => rfl
  | cons packet rest ih => exact ih (send packet tapped).2

theorem TakesAll.tapped {tapped : Tapped δ} (takes : TakesAll tapped.device) :
    TakesAll tapped := by
  intro packets packet
  have inner := takes packets packet
  rw [← sendAll_tapped] at inner
  exact inner

@[simp]
theorem sendAll_sound (packets : List Bytes) : sendAll MemoryDevice.sound packets = .sound := by
  induction packets with
  | nil => rfl
  | cons packet rest ih => exact ih

theorem takesAll_sound : TakesAll MemoryDevice.sound := by
  intro packets packet
  rw [sendAll_sound]
  rfl

private theorem TakesAll.send {device : δ} (takes : TakesAll device) (packet : Bytes) :
    Device.send packet device = (.ok (), (Device.send packet device).2) :=
  Prod.ext (takes [] packet) rfl

private theorem TakesAll.behind {device last : δ} {packets : List Bytes} (takes : TakesAll device)
    (taken : Takes device packets last) : TakesAll last := by
  induction taken with
  | nothing device => exact takes
  | @more device next last packet rest first later ih =>
      have still := takes.later packet
      rw [first] at still
      exact ih still

private theorem Takes.handed {tapped last : Tapped δ} {packets : List Bytes}
    (taken : Takes tapped packets last) : last.handed = tapped.handed ++ packets := by
  induction taken with
  | nothing tapped => exact (List.append_nil tapped.handed).symm
  | @more tapped next last packet rest first later ih =>
      have kept : (Device.send packet tapped).2.handed = tapped.handed ++ [packet] := rfl
      rw [first] at kept
      rw [ih, kept, List.append_assoc, List.singleton_append]

end Device

namespace Station

variable {δ : Type} [Device δ]

private theorem transmitWritten_taken {station : Station δ} (takes : Device.TakesAll station.device)
    (packet : Bytes) : (station.transmitWritten (.ok packet)).1 = .ok () := by
  unfold transmitWritten transmit
  simp only
  rw [takes.send packet]

/-- Values of a plain channel are sent, and packed as they were refreshed. -/
theorem sendData_taken {station : Station (Tapped δ)} (takes : Device.TakesAll station.device)
    {id : ChannelId} {channel : Channel}
    (found : station.registry.opened? id = some channel) (sameId : channel.id = id)
    (plain : Part.PlainTexts (channel.tree.fetch station.sources).1.values) :
    ∃ packet sent, Packet.data id (channel.tree.fetch station.sources).1 = .ok packet ∧
      station.sendData id = (.ok (), sent) ∧ sent.handed = station.handed ++ [packet] := by
  subst sameId
  let fetched := channel.tree.fetch station.sources
  obtain ⟨packet, written⟩ := Packet.data_of_plain plain channel.id
  let stored : Station (Tapped δ) :=
    { station with
      registry := station.registry.setOpened channel.id
        { channel with tree := fetched.1, scratch := packet }
      sources := fetched.2 }
  have stillTakes : Device.TakesAll stored.device := takes
  have taken := transmitWritten_taken stillTakes packet
  refine ⟨packet, (stored.transmitWritten (.ok packet)).2, written, ?_, ?_⟩
  · have sending : station.sendData channel.id = stored.transmitWritten (.ok packet) := by
      have sent := sendOpened_opened found Packet.data
      simp only [written] at sent
      exact sent
    rw [sending]
    exact Prod.ext taken rfl
  · rw [transmitWritten_handed]
    rfl

/-- A round that nothing stops is a round for all. -/
theorem Advertises.taken {queue : List Channel} {before after : Station (Tapped δ)}
    {outcome : Except RegistryError Unit} (advertises : Advertises queue before after outcome)
    (takes : Device.TakesAll before.device)
    (plain : ∀ channel ∈ queue, ∀ name ∈ channel.tree.names, WireItem.isPlain name = true) :
    outcome = .ok () ∧ after.handed = before.handed ++ queue.map Channel.advertisement := by
  obtain ⟨done, rest, device, split, _, _, taken, stops, _⟩ := advertises.sends
  cases stops with
  | finished =>
      rw [split, List.append_nil]
      exact ⟨rfl, taken.handed⟩
  | unwritable channel later error fails =>
      have member : channel ∈ queue := by
        rw [split]
        exact List.mem_append_right done List.mem_cons_self
      rw [Packet.broadcast_eq_ok (plain channel member)] at fails
      cases fails
  | refused channel later error last written refuses =>
      rw [(takes.behind taken).send channel.advertisement] at refuses
      cases refuses

theorem broadcastAll_taken {station : Station (Tapped δ)} (numbered : station.registry.Numbered)
    (takes : Device.TakesAll station.device)
    (plain : ∀ channel ∈ station.registry.opened, ∀ name ∈ channel.tree.names,
      WireItem.isPlain name = true) :
    ∃ sent, station.broadcastAll = (.ok (), sent) ∧
      sent.handed = station.handed ++ station.registry.opened.map Channel.advertisement ∧
      sent.registry.standings = station.registry.standings := by
  obtain ⟨outcome, sent, sending, advertises⟩ := broadcastAll_advertises numbered
  obtain ⟨rfl, handed⟩ := advertises.taken takes plain
  exact ⟨sent, sending, handed, advertises.standings⟩

theorem broadcastUnacked_taken {station : Station (Tapped δ)}
    (numbered : station.registry.Numbered) (takes : Device.TakesAll station.device)
    (plain : ∀ channel ∈ station.registry.opened, ∀ name ∈ channel.tree.names,
      WireItem.isPlain name = true) :
    ∃ sent, station.broadcastUnacked =
        (.ok (station.registry.opened.filter fun channel => channel.acked == false).length, sent) ∧
      sent.handed = station.handed ++
        (station.registry.opened.filter fun channel => channel.acked == false).map
          Channel.advertisement := by
  obtain ⟨outcome, sent, sending, advertises⟩ := broadcastUnacked_advertises numbered
  obtain ⟨rfl, handed⟩ := advertises.taken takes fun channel member =>
    plain channel (List.mem_filter.mp member).1
  exact ⟨sent, sending, handed⟩

/-- There is nothing to advertise when everything is acknowledged. -/
theorem broadcastUnacked_of_acked {station : Station δ}
    (acked : ∀ channel ∈ station.registry.opened, channel.acked = true) :
    station.broadcastUnacked = (.ok 0, station) := by
  have none : station.registry.ackedIds false = [] := by
    unfold Registry.ackedIds
    rw [List.map_eq_nil_iff, List.filter_eq_nil_iff]
    intro channel member
    rw [acked channel member]
    decide
  unfold broadcastUnacked
  rw [none]
  rfl

end Station

end Telemetry
