/-
A sender and a receiver on a link that loses nothing and takes no time. What the sender
hands over comes in at the receiver before anything else happens, once and in order, and
what the receiver hands over for it comes in at the sender.

The sender remembers for good that a channel was acknowledged. The receiver does not: an
advertisement behind values makes it forget every channel, and it does not say so. So a
channel that is acknowledged has been learned, but whether it is still known is a matter of
what the receiver has taken in since; no channel is forgotten as long as no advertisement
has come behind values.
-/

import Telemetry.Device.Memory
import Telemetry.Proofs.Network
import Telemetry.Proofs.Network.Round
import Telemetry.Proofs.Packet.Advertisement
import Telemetry.Proofs.Registry.Attuned
import Telemetry.Proofs.Registry.Remembering

namespace Telemetry

structure Joined (δ ε ρ : Type) where
  sender : Node (Tapped δ) ρ
  receiver : Node (Tapped ε) ρ
  /-- What the receiver has committed, the oldest first. -/
  heard : List Commit := []

namespace Joined

section

variable {δ ε ρ : Type} [Device δ] [Device ε]

def hear (joined : Joined δ ε ρ) (packet : Bytes) : Joined δ ε ρ :=
  let receiver := (joined.receiver.run (.receive packet)).2
  let replies := receiver.station.handed.drop joined.receiver.station.handed.length
  { sender := (joined.sender.runAll (replies.map .receive)).2
    receiver
    heard := joined.heard ++ joined.receiver.turnCommits (.ask (.receive packet)) }

def act (joined : Joined δ ε ρ) (operation : Operation ρ) : Joined δ ε ρ :=
  let sender := (joined.sender.run operation).2
  let packets := sender.station.handed.drop joined.sender.station.handed.length
  packets.foldl hear { joined with sender }

inductive Reachable : Joined δ ε ρ → Prop where
  | start (sender : Node (Tapped δ) ρ) (receiver : Node (Tapped ε) ρ)
      (freshSender : Network.Fresh sender.station) (freshReceiver : Network.Fresh receiver.station)
      (takes : Device.TakesAll sender.station.device)
      (takesBack : Device.TakesAll receiver.station.device) (quiet : receiver.Quiet) :
      Reachable { sender, receiver }
  | act {before : Joined δ ε ρ} (earlier : Reachable before) (operation : Operation ρ)
      (sending : operation.IsSending) : Reachable (before.act operation)

end

open Commit (Stands Uninterrupted)

variable {δ ε ρ : Type} [Device δ] {joined : Joined δ ε ρ}

structure Sound (joined : Joined δ ε ρ) : Prop where
  sender : joined.sender.station.Attuned joined.heard
  takes : Device.TakesAll joined.sender.station.device
  quiet : joined.receiver.Quiet
  remembers : joined.receiver.station.registry.Remembers joined.heard

private theorem Sound.advertised (sound : joined.Sound) {packet : Bytes}
    (handed : packet ∈ joined.sender.station.handed) {id : ChannelId} {tree : Part}
    (read : Packet.readBroadcast packet = .ok (id, tree)) :
    ∃ opened : Part, joined.sender.station.registry.schema? id = some opened.blank ∧
      Packet.broadcast id opened = .ok packet := by
  cases sound.sender.tells packet handed with
  | advertisement other opened schema written =>
      obtain ⟨same, _⟩ := Packet.readBroadcast_of_broadcast written read
      rw [same]
      exact ⟨opened, schema, written⟩
  | values other sent written =>
      obtain ⟨payload, opened, _⟩ := Packet.opened?_of_readBroadcast read
      rw [Packet.opened?_of_data written] at opened
      cases opened

/-- What is known to the receiver is what was learned, in the schema it was opened with. -/
private theorem Sound.schema (sound : joined.Sound) {id : ChannelId} {channel : Channel}
    (known : joined.receiver.station.registry.remote.get? id = some channel) :
    joined.sender.station.registry.schema? id = some channel.tree.blank := by
  obtain ⟨packet, later, schema, stands, _, read, holds⟩ :=
    sound.remembers.stored id channel.tree (Registry.known?_of_get? known)
  obtain ⟨earlier, place⟩ := stands.place
  have member : Commit.learned id packet ∈ joined.heard := by
    rw [place]
    exact List.mem_append_right earlier List.mem_cons_self
  obtain ⟨opened, same, written⟩ := sound.sender.learned id packet member
  obtain ⟨_, learned⟩ := Packet.readBroadcast_of_broadcast written read
  rw [same, Part.blank_eq_of_clear_eq holds.clear, learned, Part.blank_blank]

private theorem Sound.known_iff (sound : joined.Sound) (id : ChannelId) :
    (∃ channel, joined.receiver.station.registry.remote.get? id = some channel) ↔
      ∃ packet later, Stands joined.heard id packet later := by
  constructor
  · rintro ⟨channel, known⟩
    obtain ⟨packet, later, _, stands, _⟩ :=
      sound.remembers.stored id channel.tree (Registry.known?_of_get? known)
    exact ⟨packet, later, stands⟩
  · rintro ⟨packet, later, stands⟩
    obtain ⟨tree, held⟩ := sound.remembers.kept id packet later stands
    obtain ⟨channel, known, _⟩ := Option.map_eq_some_iff.mp held
    exact ⟨channel, known⟩

private theorem Sound.learned_of_isAcked (sound : joined.Sound) {id : ChannelId}
    (acked : joined.sender.station.registry.isAcked id = true) :
    ∃ packet, Commit.learned id packet ∈ joined.heard := by
  obtain ⟨channel, found, marked⟩ := Registry.isAcked_iff.mp acked
  exact sound.sender.acked id channel found marked

/-- A receiver that was never made to start over forgets nothing. -/
private theorem Sound.known_of_uninterrupted (sound : joined.Sound)
    (uninterrupted : Uninterrupted joined.heard) {id : ChannelId}
    (acked : joined.sender.station.registry.isAcked id = true) :
    ∃ channel, joined.receiver.station.registry.remote.get? id = some channel := by
  obtain ⟨packet, member⟩ := sound.learned_of_isAcked acked
  obtain ⟨earlier, later, place⟩ := List.append_of_mem member
  have whole : Uninterrupted (earlier ++ .learned id packet :: later) := place ▸ uninterrupted
  have behind : Uninterrupted later := (List.isChain_append.mp whole).2.1.tail
  exact (sound.known_iff id).mpr ⟨packet, later, ⟨earlier, place⟩, behind⟩

private theorem Sound.broadcastUnacked (sound : joined.Sound)
    (plain : ∀ opened ∈ joined.sender.station.registry.opened, ∀ name ∈ opened.tree.names,
      WireItem.isPlain name = true) :
    ∃ count, (joined.sender.run .broadcastUnacked).1 = .count count ∧
      ∀ opened ∈ joined.sender.station.registry.opened, opened.acked = false →
        opened.advertisement ∈
          (joined.sender.run .broadcastUnacked).2.station.handed.drop
            joined.sender.station.handed.length := by
  obtain ⟨sent, sending, handed⟩ :=
    Station.broadcastUnacked_taken sound.sender.numbered sound.takes plain
  have run : joined.sender.run .broadcastUnacked =
      (.count (joined.sender.station.registry.opened.filter fun channel =>
        channel.acked == false).length, joined.sender.withStation sent) := by
    unfold Node.run Node.perform Node.finish
    rw [sending]
    rfl
  rw [run]
  refine ⟨_, rfl, ?_⟩
  intro opened member unacked
  show opened.advertisement ∈ sent.handed.drop joined.sender.station.handed.length
  rw [handed, List.drop_left]
  exact List.mem_map_of_mem (List.mem_filter.mpr ⟨member, beq_iff_eq.mpr unacked⟩)

/-- The answer to an advertisement finds a sender that knows of it. -/
private theorem informed_attuned {node : Node (Tapped δ) ρ} {heard : List Commit} {id : ChannelId}
    {packet : Bytes} (attuned : node.station.Attuned heard)
    (learned : Commit.learned id packet ∈ heard) (answers : Bool) :
    let replies := if answers then [Packet.acknowledge id] else []
    let informed := (node.runAll (replies.map .receive)).2
    informed.station.Attuned heard ∧ informed.station.device = node.station.device := by
  cases answers with
  | false => exact ⟨attuned, rfl⟩
  | true =>
      have run := node.run_acknowledgement id
      show (node.run (.receive (Packet.acknowledge id))).2.station.Attuned heard ∧
        (node.run (.receive (Packet.acknowledge id))).2.station.device = node.station.device
      rw [run]
      exact ⟨attuned.receiveAcknowledge learned, node.station.receiveAcknowledge_device id⟩

variable [Device ε]

/-- Only an advertisement that is learned reaches back to the sender. -/
private theorem Sound.hear {packet : Bytes} (sound : joined.Sound)
    (handed : packet ∈ joined.sender.station.handed) :
    (joined.hear packet).Sound ∧
      (joined.hear packet).sender.station.device = joined.sender.station.device := by
  obtain ⟨station, quiet⟩ := sound.quiet.run_receive packet
  have remembers := Registry.Remembers.changes
    (joined.receiver.turn_changes (.ask (.receive packet))) sound.remembers
  have sender : (joined.hear packet).sender =
      (joined.sender.runAll (((joined.receiver.station.receive packet).2.handed.drop
        joined.receiver.station.handed.length).map .receive)).2 := by
    unfold Joined.hear
    simp only
    rw [station]
  have informed : (joined.hear packet).sender.station.Attuned (joined.hear packet).heard ∧
      (joined.hear packet).sender.station.device = joined.sender.station.device := by
    -- Where nothing is learned nothing is handed back, and the sender is as it was.
    have silent : ∀ commits, (∀ id other, Commit.learned id other ∉ commits) →
        let unmoved := (joined.sender.runAll ((joined.receiver.station.handed.drop
          joined.receiver.station.handed.length).map .receive)).2
        unmoved.station.Attuned (joined.heard ++ commits) ∧
          unmoved.station.device = joined.sender.station.device := by
      intro commits none
      rw [List.drop_length]
      exact ⟨sound.sender.hearing fun id other member => absurd member (none id other), rfl⟩
    have heard : (joined.hear packet).heard =
        joined.heard ++ joined.receiver.turnCommits (.ask (.receive packet)) := rfl
    rw [heard, sound.quiet.receive_commits, sender]
    have outcome := joined.receiver.station.receive_outcome packet
    generalize joined.receiver.station.receive packet = result at outcome
    cases outcome with
    | refused error => exact silent [] fun _ _ => List.not_mem_nil
    | learned id tree read =>
        have attuned : joined.sender.station.Attuned (joined.heard ++ [.learned id packet]) := by
          apply sound.sender.hearing
          intro other advertised member
          cases List.mem_singleton.mp member
          exact sound.advertised handed read
        rw [Station.learn_handed, List.drop_left]
        exact informed_attuned attuned (List.mem_append_right _ List.mem_cons_self) _
    | filled id payload stored tree opened known fills =>
        refine silent [.filled id packet] ?_
        intro other advertised member
        cases List.mem_singleton.mp member
    | acknowledged id payload channel opened known =>
        exact silent [] fun _ _ => List.not_mem_nil
    | ignored => exact silent [] fun _ _ => List.not_mem_nil
  have takes : Device.TakesAll (joined.hear packet).sender.station.device := by
    rw [informed.2]
    exact sound.takes
  exact ⟨⟨informed.1, takes, quiet, remembers⟩, informed.2⟩

private theorem Sound.hearAll {packets : List Bytes} (sound : joined.Sound)
    (handed : ∀ packet ∈ packets, packet ∈ joined.sender.station.handed) :
    (packets.foldl Joined.hear joined).Sound := by
  induction packets generalizing joined with
  | nil => exact sound
  | cons packet rest ih =>
      obtain ⟨here, later⟩ := List.forall_mem_cons.mp handed
      obtain ⟨heard, same⟩ := sound.hear here
      have stillHanded : (joined.hear packet).sender.station.handed =
          joined.sender.station.handed := congrArg Tapped.handed same
      apply ih heard
      rw [stillHanded]
      exact later

theorem Sound.act (sound : joined.Sound) {operation : Operation ρ}
    (sending : operation.IsSending) : (joined.act operation).Sound := by
  have moves : Station.Moves (fun before after => after.blank = before.blank)
      joined.sender.station (joined.sender.run operation).2.station :=
    joined.sender.sending_moves Part.fetch_blank sending
  have attuned := moves.keeps Station.Attuned.move sound.sender
  have takes := moves.keeps Station.Move.takesAll sound.takes
  have acted : Sound { joined with sender := (joined.sender.run operation).2 } :=
    ⟨attuned, takes, sound.quiet, sound.remembers⟩
  exact acted.hearAll fun packet member => List.mem_of_mem_drop member

theorem Reachable.sound (reachable : joined.Reachable) : joined.Sound := by
  induction reachable with
  | start sender receiver freshSender freshReceiver takes takesBack quiet =>
      obtain ⟨answers, sources, device, same⟩ := freshSender
      obtain ⟨answersBack, sourcesBack, deviceBack, sameBack⟩ := freshReceiver
      refine ⟨⟨?_, ?_, ?_, ?_, ?_⟩, takes, quiet, ?_⟩
      · rw [same]
        exact Registry.numbered_nothing answers
      · rw [same]
        exact ChannelTable.get?_empty
      · rw [same]
        exact fun _ member => absurd member List.not_mem_nil
      · rw [same]
        intro id channel impossible
        cases impossible
      · exact fun _ _ member => absurd member List.not_mem_nil
      · rw [sameBack]
        exact Registry.remembers_nothing answersBack
  | act earlier operation sending ih => exact ih.act sending

private theorem Sound.sendData (sound : joined.Sound) {id : ChannelId} {opened : Channel}
    (found : joined.sender.station.registry.opened? id = some opened)
    (plain : Part.PlainTexts (opened.tree.fetch joined.sender.station.sources).1.values) :
    ∃ packet, (joined.sender.run (.sendData id)).1 = .nothing ∧
      (joined.sender.run (.sendData id)).2.station.handed =
        joined.sender.station.handed ++ [packet] ∧
      ((∃ channel, joined.receiver.station.registry.remote.get? id = some channel) →
        (joined.receiver.run (.receive packet)).1 = .event (.dataReceived id)) ∧
      ((¬ ∃ channel, joined.receiver.station.registry.remote.get? id = some channel) →
        (joined.receiver.run (.receive packet)).1 = .failed (.unknownChannel id)) := by
  obtain ⟨packet, sent, written, sending, handed⟩ := Station.sendData_taken sound.takes found
    (sound.sender.numbered.own id opened found) plain
  have run : joined.sender.run (.sendData id) = (.nothing, joined.sender.withStation sent) := by
    unfold Node.run Node.perform Node.finish
    rw [sending]
    rfl
  rw [run]
  refine ⟨packet, rfl, handed, ?_, ?_⟩
  · rintro ⟨stored, known⟩
    have schema := sound.schema known
    rw [Registry.schema?_of_opened? found, Option.some.injEq] at schema
    rw [← Part.fetch_blank opened.tree joined.sender.station.sources] at schema
    obtain ⟨filled, _, _, received⟩ := Station.receive_data_known written known schema
    rw [Node.run_receive_answer, received]
    rfl
  · intro unknown
    have absent := Option.eq_none_iff_forall_ne_some.mpr (not_exists.mp unknown)
    rw [Node.run_receive_answer, Station.receive_data_unknown written absent]
    rfl

/-- What an acknowledgement is worth on a link that loses nothing. An acknowledged channel has
been learned. A channel is known exactly if the receiver has not been made to start over
since it was learned, and then has the schema it was opened with; so if that never happened,
all that is acknowledged is known. Plain values are always sent, and come in exactly where
their channel is known. Where names are plain, advertising what is not acknowledged
advertises every channel that was never learned. -/
theorem known_of_isAcked (reachable : joined.Reachable) :
    let sender := joined.sender
    let receiver := joined.receiver
    let known := fun id => ∃ channel, receiver.station.registry.remote.get? id = some channel
    (∀ id, sender.station.registry.isAcked id = true →
      ∃ packet, Commit.learned id packet ∈ joined.heard) ∧
    (∀ id, known id ↔ ∃ packet later, Stands joined.heard id packet later) ∧
    (Uninterrupted joined.heard → ∀ id, sender.station.registry.isAcked id = true → known id) ∧
    (∀ id channel, receiver.station.registry.remote.get? id = some channel →
      ∃ opened, sender.station.registry.opened? id = some opened ∧
        channel.tree.sameSchema opened.tree = true) ∧
    (∀ id opened, sender.station.registry.opened? id = some opened →
      Part.PlainTexts (opened.tree.fetch sender.station.sources).1.values →
      ∃ packet, (sender.run (.sendData id)).1 = .nothing ∧
        (sender.run (.sendData id)).2.station.handed = sender.station.handed ++ [packet] ∧
        (known id → (receiver.run (.receive packet)).1 = .event (.dataReceived id)) ∧
        (¬ known id → (receiver.run (.receive packet)).1 = .failed (.unknownChannel id))) ∧
    ((∀ opened ∈ sender.station.registry.opened, ∀ name ∈ opened.tree.names,
        WireItem.isPlain name = true) →
      ∃ count, (sender.run .broadcastUnacked).1 = .count count ∧
        ∀ opened ∈ sender.station.registry.opened,
          ((∀ packet, Commit.learned opened.id packet ∉ joined.heard) ∨
            (Uninterrupted joined.heard ∧ ¬ known opened.id)) →
          opened.advertisement ∈
            (sender.run .broadcastUnacked).2.station.handed.drop sender.station.handed.length) := by
  intro sender receiver known
  have sound := reachable.sound
  have learned : ∀ id, sender.station.registry.isAcked id = true →
      ∃ packet, Commit.learned id packet ∈ joined.heard := fun _ => sound.learned_of_isAcked
  have uninterrupted : Uninterrupted joined.heard → ∀ id,
      sender.station.registry.isAcked id = true → known id :=
    fun whole _ => sound.known_of_uninterrupted whole
  refine ⟨learned, sound.known_iff, uninterrupted, ?_, fun _ _ => sound.sendData, ?_⟩
  · intro id channel stored
    obtain ⟨opened, found, same⟩ := Registry.opened?_of_schema? (sound.schema stored)
    exact ⟨opened, found, (Part.sameSchema_iff_blank _ _).mpr same.symm⟩
  · intro plain
    obtain ⟨count, counted, covers⟩ := sound.broadcastUnacked plain
    refine ⟨count, counted, ?_⟩
    intro opened member missing
    apply covers opened member
    by_contra marked
    have acked : sender.station.registry.isAcked opened.id = true :=
      Registry.isAcked_iff.mpr
        ⟨opened, sound.sender.numbered.opened?_id member, Bool.eq_true_of_not_eq_false marked⟩
    rcases missing with never | ⟨whole, unknown⟩
    · obtain ⟨packet, heard⟩ := learned opened.id acked
      exact never packet heard
    · exact unknown (uninterrupted whole opened.id acked)

/-- Two fresh ends over devices that fail at nothing. -/
private theorem reachable_sound :
    let node : Node (Tapped MemoryDevice) Unit := .fresh true .empty { device := .sound }
    Reachable { sender := node, receiver := node } := by
  intro node
  have fresh : Network.Fresh node.station := ⟨true, .empty, .sound, rfl⟩
  have takes : Device.TakesAll node.station.device := Device.takesAll_sound.tapped
  exact .start node node fresh fresh takes takes (Node.quiet_fresh true .empty _)

/-- Values of one channel and then the advertisement of another make the receiver forget the
first, which stays acknowledged: values sent for it are refused, and advertising what is not
acknowledged advertises nothing. -/
theorem forgotten_though_acked :
    let tree := Part.record "r" [.number "n" (.zero .int16) none, .text "t" "on" none]
    let node : Node (Tapped MemoryDevice) Unit := .fresh true .empty { device := .sound }
    let begun : Joined MemoryDevice MemoryDevice Unit := { sender := node, receiver := node }
    let opened := begun.act (.openChannels [tree, tree])
    let sent := (opened.act (.broadcast 0)).act (.sendData 0)
    let interrupted := sent.act (.broadcast 1)
    interrupted.Reachable ∧ interrupted.sender.station.registry.isAcked 0 = true ∧
      (interrupted.receiver.station.registry.remote.get? 0).isNone = true ∧
      (interrupted.act (.sendData 0)).heard = interrupted.heard ∧
      ((interrupted.act .broadcastUnacked).receiver.station.registry.remote.get? 0).isNone =
        true := by
  intro tree node begun opened sent interrupted
  have opening : opened.Reachable := reachable_sound.act (.openChannels [tree, tree]) trivial
  have sending : sent.Reachable := (opening.act (.broadcast 0) trivial).act (.sendData 0) trivial
  exact ⟨sending.act (.broadcast 1) trivial, by decide +kernel⟩

/-- The forgotten channel is advertised again, and takes values again. -/
theorem known_of_isAcked_after_interruption :
    let tree := Part.record "r" [.number "n" (.zero .int16) none, .text "t" "on" none]
    let node : Node (Tapped MemoryDevice) Unit := .fresh true .empty { device := .sound }
    let begun : Joined MemoryDevice MemoryDevice Unit := { sender := node, receiver := node }
    let opened := begun.act (.openChannels [tree, tree])
    let sent := (opened.act (.broadcast 0)).act (.sendData 0)
    let repeated := (sent.act (.broadcast 1)).act (.broadcast 0)
    repeated.Reachable ∧
      (∃ channel, repeated.receiver.station.registry.remote.get? 0 = some channel) ∧
      ∃ packet, (repeated.sender.run (.sendData 0)).1 = .nothing ∧
        (repeated.receiver.run (.receive packet)).1 = .event (.dataReceived 0) := by
  intro tree node begun opened sent repeated
  have opening : opened.Reachable := reachable_sound.act (.openChannels [tree, tree]) trivial
  have sending : sent.Reachable := (opening.act (.broadcast 0) trivial).act (.sendData 0) trivial
  have repeating : repeated.Reachable :=
    (sending.act (.broadcast 1) trivial).act (.broadcast 0) trivial
  have ends : (repeated.receiver.station.registry.remote.get? 0).isSome = true ∧
      (repeated.sender.station.registry.opened? 0).map (fun channel =>
        (channel.tree.fetch repeated.sender.station.sources).1.values) =
          some [.number (.zero .int16), .text "on"] := by
    decide +kernel
  obtain ⟨channel, stored⟩ := Option.isSome_iff_exists.mp ends.1
  obtain ⟨_, _, _, schemas, sends, _⟩ := known_of_isAcked repeating
  obtain ⟨held, found, _⟩ := schemas 0 channel stored
  have values := ends.2
  rw [found, Option.map_some, Option.some.injEq] at values
  have plain : Part.PlainTexts (held.tree.fetch repeated.sender.station.sources).1.values := by
    rw [values]
    intro text member
    rcases List.mem_cons.mp member with number | here
    · cases number
    · cases List.mem_singleton.mp here
      decide
  obtain ⟨packet, sending, _, accepted, _⟩ := sends 0 held found plain
  exact ⟨repeating, ⟨channel, stored⟩, packet, sending, accepted ⟨channel, stored⟩⟩

end Joined

end Telemetry
