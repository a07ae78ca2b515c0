/-
What holds of a registry at any time, whatever it was asked, whatever came in, and whatever
callbacks and edits did. Channels opened here are never lost and stay acknowledged. A
channel of the peer stands under its own number, was never acknowledged, has no sources,
and holds nothing that could not be written.

So what the registry holds of its peer can always be sent back. Were it to come in here
again, it would be taken as values that are known already.
-/

import Telemetry.Proofs.Part.Recognition
import Telemetry.Proofs.Part.Splitting
import Telemetry.Proofs.Registry.Numbering
import Telemetry.Proofs.Registry.Remembering

namespace Telemetry

namespace Part

mutual

private theorem clear_sourceIds : (part : Part) → part.clear.sourceIds = part.sourceIds
  | .record _ fields => clears_sourceIds fields
  | .text _ _ _ => rfl
  | .number _ _ _ => rfl

private theorem clears_sourceIds :
    (parts : List Part) → sourcesIds (clears parts) = sourcesIds parts
  | [] => rfl
  | part :: rest => by
      rw [clears, sourcesIds, sourcesIds, clear_sourceIds part, clears_sourceIds rest]

end

private theorem plainTexts_of_unset {values : List LeafValue}
    (unset : ∀ value ∈ values, value.isUnset = true) : PlainTexts values := by
  intro text member
  have empty : text = "" := eq_of_beq (unset (.text text) member)
  rw [empty]
  decide

end Part

/-- A channel of the peer that is kept under this number. -/
structure Channel.FromPeer (id : ChannelId) (channel : Channel) : Prop where
  own : channel.id = id
  unacked : channel.acked = false
  sourceless : channel.tree.sourceIds = []
  fit : channel.tree.Advertisable
  plainTexts : Part.PlainTexts channel.tree.values

private theorem Channel.fromPeer_learned {id : ChannelId} {packet : Bytes} {tree : Part}
    (read : Packet.readBroadcast packet = .ok (id, tree)) (scratch : Bytes) :
    ({ Channel.new id tree with scratch } : Channel).FromPeer id := by
  have blank := Packet.readBroadcast_blank read
  refine ⟨rfl, rfl, ?_, Part.advertisable_of_readBroadcast read, ?_⟩
  · have sourceless := Part.blank_sourceIds tree
    rw [blank] at sourceless
    exact sourceless
  · have unset := Part.blank_values tree
    rw [blank] at unset
    exact Part.plainTexts_of_unset unset

private theorem Channel.FromPeer.filled {id : ChannelId} {stored : Channel} {payload : Cursor}
    {tree : Part} (held : stored.FromPeer id)
    (fills : Station.fill stored.tree payload = .ok tree) :
    ({ stored with tree } : Channel).FromPeer id := by
  have kept := Station.fill_clear fills
  refine ⟨held.own, held.unacked, ?_, ?_, Station.fill_plainTexts fills⟩
  · have sources := Part.clear_sourceIds tree
    rw [kept, Part.clear_sourceIds, held.sourceless] at sources
    exact sources.symm
  · exact held.fit.of_blank_eq (Part.blank_eq_of_clear_eq kept).symm

namespace Registry

/-- What a registry holds of its peer. -/
structure Orderly (registry : Registry) : Prop where
  remote : ∀ id channel, registry.remote.get? id = some channel → channel.FromPeer id
  dataMode : registry.dataMode = true → ∃ id channel, registry.remote.get? id = some channel

variable {before after : Registry}

theorem get?_setRemote (registry : Registry) (id wanted : ChannelId) (channel : Channel) :
    (registry.setRemote id channel).remote.get? wanted =
      if wanted = id then some channel else registry.remote.get? wanted :=
  ChannelTable.get?_insert registry.remote id wanted channel

theorem get?_setRemote_self (registry : Registry) (id : ChannelId) (channel : Channel) :
    (registry.setRemote id channel).remote.get? id = some channel := by
  rw [get?_setRemote, if_pos rfl]

theorem Orderly.change (orderly : before.Orderly) {commits : List Commit}
    (change : before.Change commits after) : after.Orderly := by
  cases change with
  | opening tree room => exact ⟨orderly.remote, orderly.dataMode⟩
  | rewriting id channel replacement found sameId acked =>
      exact ⟨orderly.remote, orderly.dataMode⟩
  | answering id channel scratch known =>
      have held := orderly.remote id channel known
      have written : ({ channel with scratch } : Channel).FromPeer id :=
        ⟨held.own, held.unacked, held.sourceless, held.fit, held.plainTexts⟩
      exact ⟨ChannelTable.forall_get?_insert written orderly.remote,
        fun _ => ⟨id, _, get?_setRemote_self before id _⟩⟩
  | learning id packet tree scratch read =>
      -- Whatever is known after starting over was known before.
      have kept : ∀ id channel, before.startOver.remote.get? id = some channel →
          channel.FromPeer id :=
        fun id channel known => orderly.remote id channel (startOver_get? known)
      exact ⟨ChannelTable.forall_get?_insert (Channel.fromPeer_learned read scratch) kept,
        fun _ => ⟨id, _, get?_setRemote_self before.startOver id _⟩⟩
  | filling id packet payload stored tree opened known fills =>
      have filled := (orderly.remote id stored known).filled fills
      exact ⟨ChannelTable.forall_get?_insert filled orderly.remote,
        fun _ => ⟨id, _, get?_setRemote_self before id _⟩⟩

theorem Orderly.changes {commits : List Commit} (changes : before.Changes commits after)
    (orderly : before.Orderly) : after.Orderly := by
  induction changes with
  | none registry => exact orderly
  | more first _ ih => exact ih (orderly.change first)

theorem orderly_nothing (acknowledges : Bool) : Orderly { acknowledges } := by
  constructor
  · intro id channel impossible
    cases impossible
  · intro impossible
    cases impossible

/-- A channel opened earlier is still there, and still acknowledged if it was. -/
def Retains (before after : Registry) : Prop :=
  ∀ id channel, before.opened? id = some channel →
    ∃ later, after.opened? id = some later ∧ later.id = channel.id ∧
      (channel.acked = true → later.acked = true)

private theorem Retains.of_opened (same : after.opened = before.opened) : before.Retains after := by
  intro id channel found
  refine ⟨channel, ?_, rfl, fun acked => acked⟩
  unfold opened? at found ⊢
  rw [same]
  exact found

theorem Retains.trans {middle : Registry} (first : before.Retains middle)
    (later : middle.Retains after) : before.Retains after := by
  intro id channel found
  obtain ⟨held, foundHeld, sameId, acked⟩ := first id channel found
  obtain ⟨last, foundLast, sameLast, ackedLast⟩ := later id held foundHeld
  exact ⟨last, foundLast, sameLast.trans sameId, fun was => ackedLast (acked was)⟩

private theorem Change.retains {commits : List Commit} (change : before.Change commits after) :
    before.Retains after := by
  cases change with
  | opening tree room =>
      intro id channel found
      refine ⟨channel, ?_, rfl, fun acked => acked⟩
      have inside := (List.getElem?_eq_some_iff.mp found).1
      have apart : id ≠ UInt8.ofNat before.opened.length := by
        intro same
        rw [same, next_toNat room] at inside
        exact Nat.lt_irrefl _ inside
      rw [opened?_append before _ room, if_neg apart]
      exact found
  | rewriting id channel replacement found sameId acked =>
      intro wanted other holds
      rw [opened?_setOpened found]
      by_cases same : wanted = id
      · rw [same, found, Option.some.injEq] at holds
        rw [if_pos same, ← holds]
        exact ⟨replacement, rfl, sameId, acked⟩
      · rw [if_neg same]
        exact ⟨other, holds, rfl, fun acked => acked⟩
  | answering id channel scratch known => exact .of_opened rfl
  | learning id packet tree scratch read => exact .of_opened before.startOver_opened
  | filling id packet payload stored tree opened known fills => exact .of_opened rfl

theorem Changes.retains {commits : List Commit} (changes : before.Changes commits after) :
    before.Retains after := by
  induction changes with
  | none registry => exact .of_opened rfl
  | more first _ ih => exact first.retains.trans ih

end Registry

namespace Station

variable {δ : Type} [Device δ]

/-- Sending a written packet can fail at the device alone, which does not count it then. -/
private theorem transmitWritten_ok (station : Station δ) (packet : Bytes) :
    ((station.transmitWritten (.ok packet)).1 = .ok () ∧
        (station.transmitWritten (.ok packet)).2.sent = station.sent ++ [packet]) ∨
      ∃ error, (station.transmitWritten (.ok packet)).1 = .error (.device error) ∧
        (station.transmitWritten (.ok packet)).2.sent = station.sent := by
  unfold transmitWritten transmit
  simp only
  cases Device.send packet station.device with
  | mk outcome device =>
      cases outcome with
      | ok taken => exact Or.inl ⟨rfl, rfl⟩
      | error error => exact Or.inr ⟨error, rfl, rfl⟩

theorem sendRemoteData_known {station : Station δ} {id : ChannelId} {channel : Channel}
    (known : station.registry.remote.get? id = some channel)
    (plain : Part.PlainTexts channel.tree.values) :
    ∃ packet, Packet.data channel.id channel.tree = .ok packet ∧
      station.sendRemoteData id =
        (station.withRegistry
          (station.registry.setRemote id { channel with scratch := packet })).transmitWritten
            (.ok packet) := by
  obtain ⟨packet, written⟩ := Packet.data_of_plain plain channel.id
  refine ⟨packet, written, ?_⟩
  unfold sendRemoteData sendRemote Channel.dataPacket
  rw [known]
  simp only
  rw [written]
  rfl

/-- A channel that gets the values it holds stays as it is. -/
private theorem receive_own_data {station : Station δ} {id : ChannelId} {channel : Channel}
    {packet : Bytes} (written : Packet.data id channel.tree = .ok packet)
    (known : station.registry.remote.get? id = some channel) :
    station.receive packet =
      (.ok ⟨.dataReceived id, some channel⟩,
        station.withRegistry (station.registry.fillRemote id channel)) := by
  obtain ⟨filled, values, kept, receives⟩ := receive_data_known written known rfl
  rw [Part.eq_of_clear_of_values filled channel.tree kept values] at receives
  exact receives

end Station

namespace Node

variable {δ ρ : Type} [Device δ]

theorem Reachable.orderly {node : Node δ ρ} (reachable : node.Reachable) :
    node.station.registry.Orderly := by
  obtain ⟨acknowledges, sources, device, steps, same⟩ := reachable
  rw [same]
  exact (Registry.orderly_nothing acknowledges).changes
    ((fresh acknowledges sources device).turns_changes steps)

/-- What a registry can look like, and what it can do because of that. Its channels are
numbered by their places, and none is lost or loses its acknowledgement in whatever comes.
What it holds of its peer is fit to be sent. Sending it back fails only if the device does,
and what is then sent, once received here, changes no tree. -/
theorem representation {node : Node δ ρ} (reachable : node.Reachable) :
    let registry := node.station.registry
    registry.opened.length ≤ 256 ∧
    (∀ (place : Nat) channel, registry.opened[place]? = some channel →
      channel.id.toNat = place) ∧
    (∀ steps, registry.Retains (node.turns steps).station.registry) ∧
    (∀ id channel, registry.remote.get? id = some channel →
      channel.id = id ∧ channel.acked = false ∧ channel.tree.sourceIds = [] ∧
        (∀ name ∈ channel.tree.names, WireItem.isPlain name = true) ∧
        Part.PlainTexts channel.tree.values ∧ channel.tree.height ≤ 32) ∧
    (registry.dataMode = true → registry.remote.entries ≠ []) ∧
    ∀ id channel, registry.remote.get? id = some channel →
      ∃ packet, Packet.data id channel.tree = .ok packet ∧
        let sent := node.run (.sendRemoteData id)
        let received := sent.2.run (.receive packet)
        ((sent.1 = .nothing ∧ sent.2.station.sent = node.station.sent ++ [packet]) ∨
          ∃ error, sent.1 = .failed (.device error) ∧
            sent.2.station.sent = node.station.sent) ∧
        received.1 = .event (.dataReceived id) ∧
        (∀ other, (sent.2.station.receive packet).2.registry.known? other =
          registry.known? other) ∧
        (node.Quiet → received.2.station = (sent.2.station.receive packet).2) := by
  intro registry
  have orderly := reachable.orderly
  have numbered := reachable.numbered
  refine ⟨numbered.few, ?_, ?_, ?_, ?_, ?_⟩
  · intro place channel found
    have inside := (List.getElem?_eq_some_iff.mp found).1
    have own := numbered.own (UInt8.ofNat place) channel
    unfold Registry.opened? at own
    rw [Registry.place_toNat numbered.few inside] at own
    rw [own found, Registry.place_toNat numbered.few inside]
  · intro steps
    exact (node.turns_changes steps).retains
  · intro id channel known
    have held := orderly.remote id channel known
    exact ⟨held.own, held.unacked, held.sourceless, held.fit.plainNames, held.plainTexts,
      held.fit.shallow⟩
  · intro filled empty
    obtain ⟨id, channel, known⟩ := orderly.dataMode filled
    unfold ChannelTable.get? at known
    rw [empty] at known
    cases known
  · intro id channel known
    have held := orderly.remote id channel known
    obtain ⟨packet, written, sending⟩ := Station.sendRemoteData_known known held.plainTexts
    rw [held.own] at written
    let resent : Channel := { channel with scratch := packet }
    let stored := node.station.withRegistry (registry.setRemote id resent)
    have ran : node.run (.sendRemoteData id) =
        node.finish (fun _ => .nothing) (stored.transmitWritten (.ok packet)) :=
      congrArg (node.finish fun _ => .nothing) sending
    have registryAfter : (node.run (.sendRemoteData id)).2.station.registry =
        registry.setRemote id resent := by
      rw [ran]
      exact Station.transmitWritten_registry stored (.ok packet)
    have knownAfter : (node.run (.sendRemoteData id)).2.station.registry.remote.get? id =
        some resent := by
      rw [registryAfter, Registry.get?_setRemote_self]
    have writtenAgain : Packet.data id resent.tree = .ok packet := written
    have receives := Station.receive_own_data writtenAgain knownAfter
    refine ⟨packet, written, ?_, ?_, ?_, ?_⟩
    · rcases stored.transmitWritten_ok packet with ⟨taken, counted⟩ | ⟨error, refused, same⟩
      · left
        rw [ran, finish, taken]
        exact ⟨rfl, counted⟩
      · right
        rw [ran, finish, refused]
        exact ⟨error, rfl, same⟩
    · rw [run_receive_answer, receives]
      rfl
    · intro other
      have sameTree : resent.tree = channel.tree := rfl
      rw [receives]
      refine (Registry.known?_setRemote_of_tree knownAfter rfl other).trans ?_
      rw [registryAfter]
      exact Registry.known?_setRemote_of_tree known sameTree other
    · intro quiet
      have still : (node.run (.sendRemoteData id)).2.Quiet := quiet.of_callbacks rfl rfl
      exact (still.run_receive packet).1

/-- A node that got values for a channel of its peer, and an acknowledgement for one of its
own that is then edited all over. -/
theorem representation_behind_edit :
    let advertised := Packet.sealed
      (Packet.preamble .broadcast .send 7 ++ (Part.text "s" "" none).schemaBytes)
    let values := Packet.sealed (Packet.preamble .data .send 7 ++ [0x6F, 0xFF, 0])
    let overwrite : Edit Unit := .amend fun _ sources => ((), .new 9 (.record "r" []), sources)
    let begun : Node MemoryDevice Unit := fresh true .empty .sound
    let node := begun.turns [.ask (.openChannels [.text "own" "" (some 1)]),
      .ask (.receive (Packet.acknowledge 0)), .ask (.receive advertised),
      .ask (.edit 0 [overwrite, .ask (.receive values)])]
    node.Reachable ∧ node.station.registry.isAcked 0 = true ∧
      ∃ channel packet, node.station.registry.remote.get? 7 = some channel ∧
        channel.tree.values = [.text "o\ufffd"] ∧ Packet.data 7 channel.tree = .ok packet ∧
        ((node.run (.sendRemoteData 7)).2.run (.receive packet)).1 = .event (.dataReceived 7) := by
  intro advertised values overwrite begun node
  have reachable : node.Reachable := ⟨true, .empty, .sound, _, rfl⟩
  have acked : node.station.registry.isAcked 0 = true := by decide +kernel
  have held : (node.station.registry.remote.get? 7).map (fun channel => channel.tree.values) =
      some [.text "o\ufffd"] := by
    decide +kernel
  obtain ⟨channel, known, kept⟩ := Option.map_eq_some_iff.mp held
  obtain ⟨_, _, _, _, _, sendsBack⟩ := representation reachable
  obtain ⟨packet, written, _, received, _⟩ := sendsBack 7 channel known
  exact ⟨reachable, acked, channel, packet, known, kept, written, received⟩

end Node

end Telemetry
