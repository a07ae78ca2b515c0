/-
What a node hands over while packets come in. Of its own accord it answers a packet with an
acknowledgement, if at all. Anything else it hands over then was asked for by an operation
that a callback had left, and such an operation is gone once it has been asked.

So the operations that callbacks have left can only become fewer, and as long as they do not,
there are only acknowledgements, which set off nothing when they are taken in.
-/

import Telemetry.Proofs.Device.Limit
import Telemetry.Proofs.Device.Queue
import Telemetry.Proofs.Registry.Moving

namespace Telemetry

variable {ρ : Type}

/-- What the framer of the peer lets through. -/
def SerialDevice.Sendable (packet : Bytes) : Prop :=
  packet ≠ [] ∧ framedSize packet ≤ Framer.standardLimit

def Packet.IsAcknowledgement (packet : Bytes) : Prop := ∃ id, packet = acknowledge id

private theorem Packet.sealed_ne_nil (packetType : PacketType) (function : PacketFunction)
    (id : ChannelId) (payload : Bytes) :
    sealed (preamble packetType function id ++ payload) ≠ [] := by
  intro impossible
  cases impossible

private theorem Packet.acknowledge_ne_nil (id : ChannelId) : acknowledge id ≠ [] :=
  sealed_ne_nil .broadcast .acknowledge id []

private theorem Registry.Issues.ne_nil {registry : Registry} {packet : Bytes}
    (issued : registry.Issues packet) : packet ≠ [] := by
  cases issued with
  | advertisement id channel found written =>
      rw [(Packet.broadcast_eq_ok_iff.mp written).2]
      exact Packet.sealed_ne_nil _ _ _ _
  | values id channel held written =>
      rw [(Packet.data_eq_ok_iff.mp written).2]
      exact Packet.sealed_ne_nil _ _ _ _
  | acknowledgement id channel known written =>
      rw [written]
      exact Packet.acknowledge_ne_nil channel.id

namespace Station

/-- The frames of these packets were put behind those that wait. -/
structure Queues (before after : Station SerialDevice) (packets : List Bytes) : Prop where
  queue : after.device.queue = before.device.queue ++ packets.map Frame.encode
  sendable : ∀ packet ∈ packets, SerialDevice.Sendable packet

variable {before middle after station : Station SerialDevice} {packets later : List Bytes}

private theorem Queues.of_device (same : after.device = before.device) : Queues before after [] :=
  ⟨by simp [same], List.forall_mem_nil _⟩

private theorem Queues.trans (first : Queues before middle packets)
    (rest : Queues middle after later) : Queues before after (packets ++ later) where
  queue := by simp [rest.queue, first.queue]
  sendable := List.forall_mem_append.mpr ⟨first.sendable, rest.sendable⟩

/-- A packet that is handed over waits, or has been refused. -/
private theorem transmit_queues (station : Station SerialDevice) {packet : Bytes}
    (filled : packet ≠ []) :
    ∃ packets ⊆ [packet], Queues station (station.transmit packet).2 packets := by
  have sending : station.device.Sending packet (Device.send packet station.device) :=
    station.device.send_sending packet
  have fits : (Device.send packet station.device).1 = .ok () →
      SerialDevice.framedSize packet ≤ Framer.standardLimit := by
    intro taken
    apply Nat.le_of_not_lt
    intro long
    have refused := (station.device.send_tooLarge_iff packet _).mpr ⟨long, rfl⟩
    cases taken.symm.trans refused
  unfold transmit
  generalize Device.send packet station.device = result at sending fits
  cases sending with
  | taken room =>
      exact ⟨[packet], List.Subset.refl _, rfl, List.forall_mem_singleton.mpr ⟨filled, fits rfl⟩⟩
  | tooLarge long => exact ⟨[], List.nil_subset _, .of_device rfl⟩
  | closed stopped => exact ⟨[], List.nil_subset _, .of_device rfl⟩
  | full noRoom => exact ⟨[], List.nil_subset _, .of_device rfl⟩

private theorem Move.queues {changes : Part → Part → Prop} (move : Move changes station after) :
    ∃ packets, Queues station after packets := by
  cases move with
  | handing packet issued =>
      obtain ⟨packets, _, queues⟩ := station.transmit_queues issued.ne_nil
      exact ⟨packets, queues⟩
  | _ => exact ⟨[], .of_device rfl⟩

private theorem Moves.queues {changes : Part → Part → Prop} (moves : Moves changes station after) :
    ∃ packets, Queues station after packets := by
  induction moves with
  | refl => exact ⟨[], .of_device rfl⟩
  | tail _ move ih =>
      obtain ⟨packets, earlier⟩ := ih
      obtain ⟨more, now⟩ := move.queues
      exact ⟨packets ++ more, earlier.trans now⟩

/-- By itself a station answers packets with acknowledgements and nothing else. -/
theorem receive_queues (station : Station SerialDevice) (packet : Bytes) :
    ∃ packets, (∀ answer ∈ packets, Packet.IsAcknowledgement answer) ∧
      Queues station (station.receive packet).2 packets := by
  have nothing {after : Station SerialDevice} (same : after.device = station.device) :
      ∃ packets, (∀ answer ∈ packets, Packet.IsAcknowledgement answer) ∧
        Queues station after packets :=
    ⟨[], List.forall_mem_nil _, .of_device same⟩
  have outcome := station.receive_outcome packet
  generalize station.receive packet = result at outcome
  cases outcome with
  | learned id tree read =>
      unfold learn
      split
      · obtain ⟨packets, only, queues⟩ :=
          (station.withRegistry station.registry.startOver).transmit_queues
            (Packet.acknowledge_ne_nil id)
        have answers : ∀ answer ∈ packets, Packet.IsAcknowledgement answer :=
          fun answer member => ⟨id, List.mem_singleton.mp (only member)⟩
        exact ⟨packets, answers, queues.queue, queues.sendable⟩
      · exact nothing rfl
  | _ => exact nothing rfl

end Station

namespace Node

/-- Whether the callback for this occasion has an operation left. -/
def waits {δ : Type} (node : Node δ ρ) (occasion : Occasion) : Bool :=
  ((node.callback? occasion).bind Callback.pending).isSome

/-- How many operations callbacks have left. -/
def pendingCount {δ : Type} (node : Node δ ρ) : Nat :=
  (node.waits .broadcast).toNat + (node.waits .data).toNat

section

variable {δ : Type} (node : Node δ ρ)

theorem pendingCount_le : node.pendingCount ≤ occasionCount :=
  Nat.add_le_add (Bool.toNat_le _) (Bool.toNat_le _)

@[simp]
theorem pendingCount_withStation (station : Station δ) :
    (node.withStation station).pendingCount = node.pendingCount := by
  simp [pendingCount, waits]

@[simp]
theorem pendingCount_record (call : Call ρ) :
    (node.record call).pendingCount = node.pendingCount := by
  simp [pendingCount, waits]

/-- An operation that is asked is not left any more. -/
private theorem pendingCount_calling {occasion : Occasion} {callback : Callback ρ}
    {operation : Operation ρ} (installed : node.callback? occasion = some callback)
    (pending : callback.pending = some operation) (channel : Channel) :
    (node.calling occasion callback channel).pendingCount < node.pendingCount := by
  cases occasion <;> simp [calling, pendingCount, waits, installed, pending]

end

variable {before middle after : Node SerialDevice ρ}

/-- Packets were handed over, and callbacks have no more operations left than before. -/
structure Extends (before after : Node SerialDevice ρ) : Prop where
  pending : after.pendingCount ≤ before.pendingCount
  queues : ∃ packets, before.station.Queues after.station packets

private theorem Extends.trans (first : before.Extends middle) (rest : middle.Extends after) :
    before.Extends after := by
  obtain ⟨packets, earlier⟩ := first.queues
  obtain ⟨later, now⟩ := rest.queues
  exact ⟨Nat.le_trans rest.pending first.pending, packets ++ later, earlier.trans now⟩

/-- What comes of packets that are taken in. As long as no operation is gone, there are only
acknowledgements. -/
structure Answers (before after : Node SerialDevice ρ) : Prop where
  pending : after.pendingCount ≤ before.pendingCount
  queues : ∃ packets, before.station.Queues after.station packets ∧
    (after.pendingCount = before.pendingCount →
      ∀ packet ∈ packets, Packet.IsAcknowledgement packet)

private theorem Answers.extends (answers : before.Answers after) : before.Extends after := by
  obtain ⟨packets, queues, _⟩ := answers.queues
  exact ⟨answers.pending, packets, queues⟩

private theorem Answers.of_same (pending : after.pendingCount = before.pendingCount)
    (device : after.station.device = before.station.device) : before.Answers after :=
  ⟨Nat.le_of_eq pending, [], .of_device device, fun _ => List.forall_mem_nil _⟩

private theorem Extends.answers (extended : before.Extends after)
    (fewer : after.pendingCount < before.pendingCount) : before.Answers after := by
  obtain ⟨packets, queues⟩ := extended.queues
  exact ⟨extended.pending, packets, queues, fun same => absurd same (Nat.ne_of_lt fewer)⟩

private theorem Answers.trans (first : before.Answers middle) (rest : middle.Answers after) :
    before.Answers after := by
  obtain ⟨packets, earlier, only⟩ := first.queues
  obtain ⟨later, now, onlyLater⟩ := rest.queues
  have fewerFirst := first.pending
  have fewerRest := rest.pending
  refine ⟨Nat.le_trans fewerRest fewerFirst, packets ++ later, earlier.trans now, ?_⟩
  intro same
  exact List.forall_mem_append.mpr ⟨only (by omega), onlyLater (by omega)⟩

private theorem spans_extends {react : Reaction SerialDevice ρ}
    (answers : ∀ occasion channel node, Answers node (react occasion channel node)) :
    Spans react Extends where
  refl _ := ⟨Nat.le_refl _, [], .of_device rfl⟩
  trans := Extends.trans
  moving _ _ moves := ⟨Nat.le_refl _, moves.queues⟩
  reacting occasion channel node := (answers occasion channel node).extends

private theorem admits_extends : Admits (Extends : Node SerialDevice ρ → Node SerialDevice ρ → Prop) := by
  intro node packet
  obtain ⟨packets, _, queues⟩ := node.station.receive_queues packet
  exact ⟨Nat.le_refl _, packets, queues⟩

private theorem react_answers (depth : Nat) (occasion : Occasion) (channel : Channel)
    (node : Node SerialDevice ρ) : node.Answers (Node.react depth occasion channel node) := by
  refine react_induction (fun _ => .of_same rfl rfl) (fun _ _ => .of_same (by simp) (by simp)) ?_
    depth occasion channel node
  intro react answers node occasion callback operation channel installed waits asked
  have fewer := node.pendingCount_calling installed waits channel
  have extended := (spans_extends answers).perform operation (.inr admits_extends)
    (node.calling occasion callback channel)
  have lower : asked.2.pendingCount < node.pendingCount :=
    Nat.lt_of_le_of_lt extended.pending fewer
  obtain ⟨packets, queues⟩ := extended.queues
  rw [calling_station] at queues
  exact Extends.answers ⟨Nat.le_of_lt lower, packets, queues⟩ lower

theorem run_extends (node : Node SerialDevice ρ) (operation : Operation ρ) :
    node.Extends (node.run operation).2 :=
  (spans_extends (react_answers occasionCount)).perform operation (.inr admits_extends) node

private theorem run_receive_answers (node : Node SerialDevice ρ) (packet : Bytes) :
    node.Answers (node.run (.receive packet)).2 := by
  obtain ⟨packets, only, queues⟩ := node.station.receive_queues packet
  have arrived : node.Answers (node.withStation (node.station.receive packet).2) :=
    ⟨Nat.le_refl _, packets, queues, fun _ => only⟩
  rw [run_receive_eq]
  obtain same | ⟨occasion, channel, same⟩ :=
    settle_cases (Node.react occasionCount) node (node.station.receive packet)
  · rw [same]
    exact arrived
  · rw [same]
    exact arrived.trans (react_answers occasionCount occasion channel _)

theorem runAll_receive_answers (node : Node SerialDevice ρ) (packets : List Bytes) :
    node.Answers (node.runAll (packets.map .receive)).2 := by
  induction packets generalizing node with
  | nil => exact .of_same rfl rfl
  | cons packet rest ih => exact (node.run_receive_answers packet).trans (ih _)

/-- Acknowledgements set off nothing. -/
theorem runAll_acknowledgements_device (node : Node SerialDevice ρ) {packets : List Bytes}
    (only : ∀ packet ∈ packets, Packet.IsAcknowledgement packet) :
    (node.runAll (packets.map .receive)).2.station.device = node.station.device := by
  induction packets generalizing node with
  | nil => rfl
  | cons packet rest ih =>
      obtain ⟨⟨id, rfl⟩, later⟩ := List.forall_mem_cons.mp only
      have here : (node.run (.receive (Packet.acknowledge id))).2.station.device =
          node.station.device := by
        rw [run_acknowledgement]
        unfold Station.receiveAcknowledge
        split <;> rfl
      exact (ih _ later).trans here

end Node

end Telemetry
