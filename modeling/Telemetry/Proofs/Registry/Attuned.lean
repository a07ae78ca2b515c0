/-
A sending end whose channels are what its receiver has committed. What it has handed over
are advertisements in the schemas its channels were opened with, and values; what the
receiver learned are such advertisements, and only channels that it learned are marked as
acknowledged. Opening, refreshing, advertising and sending keep it so, and so does an
acknowledgement of what was learned.
-/

import Telemetry.Proofs.Registry.Advertising
import Telemetry.Proofs.Registry.Moving

namespace Telemetry

/-- The packets that tell of channels as they were opened. -/
inductive Registry.Tells (registry : Registry) (packet : Bytes) : Prop where
  | advertisement (id : ChannelId) (tree : Part) (schema : registry.schema? id = some tree.blank)
      (written : Packet.broadcast id tree = .ok packet)
  | values (id : ChannelId) (tree : Part) (written : Packet.data id tree = .ok packet)

/-- A sender that fits what its receiver has committed: every advertisement the receiver has
learned was of a channel as it is here, and only those channels are marked. -/
structure Station.Attuned {δ : Type} (heard : List Commit) (station : Station (Tapped δ)) :
    Prop where
  numbered : station.registry.Numbered
  alone : ∀ id, station.registry.remote.get? id = none
  tells : ∀ packet ∈ station.handed, station.registry.Tells packet
  acked : ∀ id channel, station.registry.opened? id = some channel → channel.acked = true →
    ∃ packet, Commit.learned id packet ∈ heard
  learned : ∀ id packet, Commit.learned id packet ∈ heard →
    ∃ tree, station.registry.schema? id = some tree.blank ∧ Packet.broadcast id tree = .ok packet

namespace Station

variable {δ : Type} {heard : List Commit} {station after : Station (Tapped δ)}

private theorem Attuned.of_schemas (attuned : station.Attuned heard)
    (numbered : after.registry.Numbered) (alone : after.registry.remote = station.registry.remote)
    (handed : after.handed = station.handed)
    (acked : ∀ id channel, after.registry.opened? id = some channel → channel.acked = true →
      ∃ packet, Commit.learned id packet ∈ heard)
    (schemas : ∀ id schema, station.registry.schema? id = some schema →
      after.registry.schema? id = some schema) : after.Attuned heard := by
  refine ⟨numbered, ?_, ?_, acked, ?_⟩
  · rw [alone]
    exact attuned.alone
  · intro packet member
    rw [handed] at member
    cases attuned.tells packet member with
    | advertisement id tree schema written =>
        exact .advertisement id tree (schemas id tree.blank schema) written
    | values id tree written => exact .values id tree written
  · intro id packet member
    obtain ⟨tree, schema, written⟩ := attuned.learned id packet member
    exact ⟨tree, schemas id tree.blank schema, written⟩

private theorem Attuned.setOpened (attuned : station.Attuned heard) {id : ChannelId}
    {channel replacement : Channel} (found : station.registry.opened? id = some channel)
    (sameId : replacement.id = channel.id) (sameSchema : replacement.tree.blank = channel.tree.blank)
    (acked : replacement.acked = true → ∃ packet, Commit.learned id packet ∈ heard) :
    (station.withRegistry (station.registry.setOpened id replacement)).Attuned heard := by
  apply attuned.of_schemas (attuned.numbered.setOpened found sameId)
  · rfl
  · rfl
  · exact Registry.forall_opened?_setOpened found acked attuned.acked
  · intro wanted schema known
    exact (Registry.schema?_setOpened found sameSchema wanted).trans known

private theorem Attuned.opening (attuned : station.Attuned heard) (tree : Part)
    (room : station.registry.opened.length < Registry.maxChannels) :
    (station.withRegistry
      { station.registry with
        opened := station.registry.opened ++
          [Channel.new (UInt8.ofNat station.registry.opened.length) tree] }).Attuned heard := by
  apply attuned.of_schemas (attuned.numbered.change (.opening tree room))
  · rfl
  · rfl
  · exact Registry.forall_opened?_append room (fun impossible => nomatch impossible) attuned.acked
  · intro id schema known
    exact Registry.schema?_append _ room known

private theorem Attuned.tells_of_issues (attuned : station.Attuned heard) {packet : Bytes}
    (issued : station.registry.Issues packet) : station.registry.Tells packet := by
  cases issued with
  | advertisement id channel found written =>
      have schema := Registry.schema?_of_opened? found
      rw [← attuned.numbered.own id channel found] at schema
      exact .advertisement channel.id channel.tree schema written
  | values id channel held written => exact .values channel.id channel.tree written
  | acknowledgement id channel known written =>
      rw [attuned.alone] at known
      cases known

theorem Attuned.hearing (attuned : station.Attuned heard) {commits : List Commit}
    (learned : ∀ id packet, Commit.learned id packet ∈ commits → ∃ tree,
      station.registry.schema? id = some tree.blank ∧ Packet.broadcast id tree = .ok packet) :
    station.Attuned (heard ++ commits) := by
  refine ⟨attuned.numbered, attuned.alone, attuned.tells, ?_, ?_⟩
  · intro id channel found marked
    obtain ⟨packet, member⟩ := attuned.acked id channel found marked
    exact ⟨packet, List.mem_append_left commits member⟩
  · intro id packet member
    rcases List.mem_append.mp member with before | now
    · exact attuned.learned id packet before
    · exact learned id packet now

theorem Attuned.receiveAcknowledge (attuned : station.Attuned heard) {id : ChannelId}
    {packet : Bytes} (learned : Commit.learned id packet ∈ heard) :
    (station.receiveAcknowledge id).2.Attuned heard := by
  unfold Station.receiveAcknowledge
  cases found : station.registry.opened? id with
  | none => exact attuned
  | some channel => exact attuned.setOpened found rfl rfl fun _ => ⟨packet, learned⟩

@[simp]
theorem receiveAcknowledge_device (station : Station (Tapped δ)) (id : ChannelId) :
    (station.receiveAcknowledge id).2.device = station.device := by
  unfold receiveAcknowledge
  split <;> rfl

variable [Device δ]

theorem Attuned.move (move : Move (fun before after => after.blank = before.blank) station after)
    (attuned : station.Attuned heard) : after.Attuned heard := by
  cases move with
  | opening tree room => exact attuned.opening tree room
  | rewriting id channel tree scratch found changed =>
      exact attuned.setOpened found rfl changed (attuned.acked id channel found)
  -- A sender that takes in nothing but acknowledgements has no channels of a peer.
  | answering id channel scratch known =>
      rw [attuned.alone] at known
      cases known
  | filling id channel tree known =>
      rw [attuned.alone] at known
      cases known
  | handing packet issued =>
      have told := attuned.tells_of_issues issued
      refine ⟨?_, ?_, ?_, ?_, ?_⟩
      · rw [transmit_registry]
        exact attuned.numbered
      · rw [transmit_registry]
        exact attuned.alone
      · rw [transmit_registry, transmit_handed]
        exact List.forall_mem_append.mpr ⟨attuned.tells, List.forall_mem_singleton.mpr told⟩
      · rw [transmit_registry]
        exact attuned.acked
      · rw [transmit_registry]
        exact attuned.learned
  | drawing sources =>
      exact ⟨attuned.numbered, attuned.alone, attuned.tells, attuned.acked, attuned.learned⟩

theorem Move.takesAll {changes : Part → Part → Prop} (move : Move changes station after)
    (takes : Device.TakesAll station.device) : Device.TakesAll after.device := by
  cases move with
  | handing packet issued =>
      have later := takes.later packet
      unfold transmit
      split
      · next device taken =>
          rw [taken] at later
          exact later
      · next error device refused =>
          rw [refused] at later
          exact later
  | _ => exact takes

end Station

end Telemetry
