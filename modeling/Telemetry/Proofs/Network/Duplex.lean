/-
Two ends that both do as they like. Each runs any operations of its own, in any order, and
takes in what the other has handed over, any packet, as often as it likes, in any order or
never; what it answered to each is on record. Nothing else comes in.

Numbers mean one thing in each direction, and a packet does not say which end it is from.
So what an acknowledgement is worth rests on what both ends hold and have sent: a channel
of the peer is stored only when it has been learned, and is all an acknowledgement is
written from, even if it has been forgotten and learned again in between.
-/

import Telemetry.Device.Memory
import Telemetry.Proofs.Network
import Telemetry.Proofs.Registry.Grounds

namespace Telemetry

/-- One end, with the packets it took in and what it answered to each, the oldest first. -/
structure Peer (δ ρ : Type) where
  node : Node (Tapped δ) ρ
  receipts : List (Bytes × Answer ρ) := []

namespace Peer

variable {δ ε ρ σ : Type}

def handed (peer : Peer δ ρ) : List Bytes := peer.node.station.handed

/-- This end has handed over an advertisement of the channel, and the other has answered to
it that it has learned the channel. -/
def Taught (peer : Peer δ ρ) (other : Peer ε σ) (id : ChannelId) : Prop :=
  ∃ tree packet, Packet.broadcast id tree = .ok packet ∧ packet ∈ peer.handed ∧
    (packet, .event (.schemaLearned id)) ∈ other.receipts

variable [Device δ] [Device ε]

def take (peer : Peer δ ρ) (packet : Bytes) : Peer δ ρ :=
  { node := (peer.node.run (.receive packet)).2
    receipts := peer.receipts ++ [(packet, (peer.node.run (.receive packet)).1)] }

/-- A step of one end, with the packets that can come in. The last step of an edit stores
whatever became of the copy. -/
inductive Act (incoming : List Bytes) (peer : Peer δ ρ) : Peer δ ρ → Prop where
  | ask (operation : Operation ρ) (own : operation.IsOwn) :
      Act incoming peer { peer with node := (peer.node.run operation).2 }
  | install (occasion : Occasion) (callback : Callback ρ)
      (own : ∀ operation, callback.pending = some operation → operation.IsOwn) :
      Act incoming peer { peer with node := peer.node.install occasion callback }
  | store (id : ChannelId) (tree : Part) :
      Act incoming peer
        { peer with node := peer.node.withStation (peer.node.station.storeTree id tree) }
  | drift (sources : Sources) (device : δ) :
      Act incoming peer
        { peer with
          node := peer.node.withStation (Network.amid peer.node.station sources device) }
  | take (packet : Bytes) (pooled : packet ∈ incoming) : Act incoming peer (peer.take packet)

end Peer

structure Duplex (δ ε ρ σ : Type) where
  left : Peer δ ρ
  right : Peer ε σ

namespace Duplex

variable {δ ε ρ σ : Type} [Device δ] [Device ε]

inductive Step (duplex : Duplex δ ε ρ σ) : Duplex δ ε ρ σ → Prop where
  | left {after : Peer δ ρ} (act : duplex.left.Act duplex.right.handed after) :
      Step duplex { duplex with left := after }
  | right {after : Peer ε σ} (act : duplex.right.Act duplex.left.handed after) :
      Step duplex { duplex with right := after }

inductive Reachable : Duplex δ ε ρ σ → Prop where
  | start (leftAnswers rightAnswers : Bool) (leftSources rightSources : Sources)
      (leftDevice : δ) (rightDevice : ε) :
      Reachable
        { left := { node := .fresh leftAnswers leftSources { device := leftDevice } }
          right := { node := .fresh rightAnswers rightSources { device := rightDevice } } }
  | step {before after : Duplex δ ε ρ σ} (earlier : Reachable before) (step : Step before after) :
      Reachable after

end Duplex

namespace Peer

variable {δ ε ρ σ : Type}

/-- Nothing that was handed over or put on record is lost. -/
structure Grows (before after : Peer δ ρ) : Prop where
  handed : ∀ packet ∈ before.handed, packet ∈ after.handed
  receipts : ∀ receipt ∈ before.receipts, receipt ∈ after.receipts

theorem Grows.trans {before middle after : Peer δ ρ} (first : before.Grows middle)
    (later : middle.Grows after) : before.Grows after :=
  ⟨fun packet member => later.handed packet (first.handed packet member),
    fun receipt member => later.receipts receipt (first.receipts receipt member)⟩

private theorem Grows.taught {before after : Peer δ ρ} (grows : before.Grows after)
    {other : Peer ε σ}
    {id : ChannelId} (taught : before.Taught other id) : after.Taught other id := by
  obtain ⟨tree, packet, written, member, answered⟩ := taught
  exact ⟨tree, packet, written, grows.handed packet member, answered⟩

private theorem Grows.taughtBy {before after : Peer δ ρ} (grows : before.Grows after)
    {other : Peer ε σ}
    {id : ChannelId} (taught : other.Taught before id) : other.Taught after id := by
  obtain ⟨tree, packet, written, member, answered⟩ := taught
  exact ⟨tree, packet, written, member, grows.receipts _ answered⟩

structure Founded (peer : Peer δ ρ) (other : Peer ε σ) : Prop where
  station : peer.node.station.Founded (other.Taught peer) (peer.Taught other)
  tame : peer.node.Tame

private theorem Founded.isAcked {peer : Peer δ ρ} {other : Peer ε σ} (founded : peer.Founded other)
    (id : ChannelId) (acked : peer.node.station.registry.isAcked id = true) :
    peer.Taught other id := by
  obtain ⟨channel, found, marked⟩ := Registry.isAcked_iff.mp acked
  exact founded.station.acked id channel found marked

private theorem Founded.of_grown {peer : Peer δ ρ} {other later : Peer ε σ}
    (founded : peer.Founded other) (grows : other.Grows later) : peer.Founded later :=
  ⟨founded.station.mono (fun _ => grows.taught) (fun _ => grows.taughtBy), founded.tame⟩

private theorem founded_fresh (answers : Bool) (sources : Sources) (device : δ) (other : Peer ε σ) :
    Founded { node := (.fresh answers sources { device } : Node (Tapped δ) ρ) } other := by
  refine ⟨⟨?_, ?_, ?_⟩, ?_⟩
  · intro id channel impossible
    cases impossible
  · intro id channel impossible
    cases impossible
  · intro packet impossible
    cases impossible
  · intro occasion callback operation impossible
    cases occasion <;> cases impossible

variable [Device δ]

/-- What an end does by itself, as far as the other can see. -/
private theorem Founded.moves {peer after : Peer δ ρ} {other : Peer ε σ}
    (founded : peer.Founded other)
    (moves : Station.Moves (fun _ _ => True) peer.node.station after.node.station)
    (receipts : after.receipts = peer.receipts) (tame : after.node.Tame) :
    after.Founded other ∧ peer.Grows after := by
  have grows : peer.Grows after := by
    refine ⟨?_, ?_⟩
    · intro packet
      exact moves.keeps fun move member => move.handed_mem member
    · rw [receipts]
      exact fun _ member => member
  have station := moves.keeps Station.Founded.move founded.station
  exact ⟨⟨station.mono (fun _ => grows.taughtBy) (fun _ => grows.taught), tame⟩, grows⟩

theorem Act.founded {peer after : Peer δ ρ} {other : Peer ε σ} (act : peer.Act other.handed after)
    (founded : peer.Founded other) (foundedOther : other.Founded peer) :
    after.Founded other ∧ peer.Grows after := by
  cases act with
  | ask operation own =>
      have follows := Node.run_follows founded.tame own
      exact founded.moves follows.moves rfl (follows.tame founded.tame)
  | install occasion callback own =>
      have same : (peer.node.install occasion callback).station = peer.node.station := by
        cases occasion <;> rfl
      refine founded.moves ?_ rfl (founded.tame.install occasion own)
      rw [same]
      exact .refl
  | store id tree =>
      exact founded.moves (Station.storeTree_moves (fun _ _ => trivial) _ id tree) rfl founded.tame
  | drift sources device =>
      have station : (Network.amid peer.node.station sources device).Founded (other.Taught peer)
          (peer.Taught other) :=
        ⟨founded.station.remote, founded.station.acked, founded.station.handed⟩
      have grows : peer.Grows { peer with
          node := peer.node.withStation (Network.amid peer.node.station sources device) } :=
        ⟨fun _ member => member, fun _ member => member⟩
      exact ⟨⟨station, founded.tame⟩, grows⟩
  | take packet pooled =>
      -- Half way the packet is answered and the callback has still to run: what that hands
      -- over can rest on what was learned just now.
      let received := (peer.node.station.receive packet).2
      let middle : Peer δ ρ := { peer.take packet with node := peer.node.withStation received }
      have grown : peer.Grows middle :=
        ⟨fun _ => Station.receive_handed_mem, fun _ => List.mem_append_left _⟩
      have sourced := foundedOther.station.handed packet pooled
      have learned : ∀ id tree, Packet.readBroadcast packet = .ok (id, tree) →
          other.Taught middle id := by
        intro id tree read
        obtain ⟨payload, opened, _⟩ := Packet.opened?_of_readBroadcast read
        obtain ⟨advertised, written⟩ := sourced.broadcast_of_send opened
        refine ⟨advertised, packet, written, pooled, List.mem_append_right _ ?_⟩
        rw [Node.run_receive_answer, Station.receive_of_readBroadcast read]
        exact List.mem_singleton.mpr rfl
      have station : received.Founded (other.Taught middle) (peer.Taught other) :=
        (founded.station.mono (fun _ => grown.taughtBy) fun _ taught => taught).receive sourced
          learned
      have foundedMiddle : middle.Founded other :=
        ⟨station.mono (fun _ taught => taught) (fun _ => grown.taught), founded.tame⟩
      have follows := Node.run_receive_follows founded.tame packet
      have behind : (peer.take packet).Founded other ∧ middle.Grows (peer.take packet) :=
        foundedMiddle.moves follows.moves rfl (follows.tame founded.tame)
      exact ⟨behind.1, grown.trans behind.2⟩

end Peer

namespace Duplex

variable {δ ε ρ σ : Type} [Device δ] [Device ε]

structure Founded (duplex : Duplex δ ε ρ σ) : Prop where
  left : duplex.left.Founded duplex.right
  right : duplex.right.Founded duplex.left

theorem Founded.step {before after : Duplex δ ε ρ σ} (founded : before.Founded)
    (step : Step before after) : after.Founded := by
  cases step with
  | left act =>
      obtain ⟨acting, grows⟩ := act.founded founded.left founded.right
      exact ⟨acting, founded.right.of_grown grows⟩
  | right act =>
      obtain ⟨acting, grows⟩ := act.founded founded.right founded.left
      exact ⟨founded.left.of_grown grows, acting⟩

theorem Reachable.founded {duplex : Duplex δ ε ρ σ} (reachable : duplex.Reachable) :
    duplex.Founded := by
  induction reachable with
  | start leftAnswers rightAnswers leftSources rightSources leftDevice rightDevice =>
      exact ⟨Peer.founded_fresh leftAnswers leftSources leftDevice _,
        Peer.founded_fresh rightAnswers rightSources rightDevice _⟩
  | step _ step ih => exact ih.step step

/-- No acknowledgement out of thin air. A channel is marked as acknowledged at one end only
after the other has answered to an advertisement of it, which the first had handed over,
that it has learned the channel. -/
theorem taught_of_isAcked {duplex : Duplex δ ε ρ σ} (reachable : duplex.Reachable) :
    (∀ id, duplex.left.node.station.registry.isAcked id = true →
        duplex.left.Taught duplex.right id) ∧
      ∀ id, duplex.right.node.station.registry.isAcked id = true →
        duplex.right.Taught duplex.left id :=
  ⟨reachable.founded.left.isAcked, reachable.founded.right.isAcked⟩

/-- Both ends open, advertise and learn a channel under one number, with packets of one end
that are those of the other, byte for byte. -/
theorem taught_of_isAcked_alike :
    let tree := Part.record "r" [.number "n" (.zero .int16) none, .text "t" "" (some 1)]
    let advertisement := Packet.sealed (Packet.preamble .broadcast .send 0 ++ tree.schemaBytes)
    let begun : Peer MemoryDevice Unit := { node := .fresh true .empty { device := .sound } }
    let opened := { begun with node := (begun.node.run (.openChannels [tree])).2 }
    let advertised := { opened with node := (opened.node.run (.broadcast 0)).2 }
    let informed := advertised.take advertisement
    let settled := informed.take (Packet.acknowledge 0)
    Reachable { left := settled, right := settled } ∧
      settled.node.station.registry.isAcked 0 = true ∧ settled.Taught settled 0 := by
  intro tree advertisement begun opened advertised informed settled
  have started : Reachable { left := begun, right := begun } :=
    .start true true .empty .empty MemoryDevice.sound MemoryDevice.sound
  have opening : Reachable { left := opened, right := opened } :=
    (started.step (.left (.ask (.openChannels [tree]) trivial))).step
      (.right (.ask (.openChannels [tree]) trivial))
  have advertising : Reachable { left := advertised, right := advertised } :=
    (opening.step (.left (.ask (.broadcast 0) trivial))).step (.right (.ask (.broadcast 0) trivial))
  have pooled : advertisement ∈ advertised.handed ∧ advertisement ∈ informed.handed ∧
      Packet.acknowledge 0 ∈ informed.handed ∧ Packet.acknowledge 0 ∈ settled.handed ∧
      settled.node.station.registry.isAcked 0 = true := by
    decide +kernel
  have informing : Reachable { left := informed, right := informed } :=
    (advertising.step (.left (.take advertisement pooled.1))).step
      (.right (.take advertisement pooled.2.1))
  have settling : Reachable { left := settled, right := settled } :=
    (informing.step (.left (.take (Packet.acknowledge 0) pooled.2.2.1))).step
      (.right (.take (Packet.acknowledge 0) pooled.2.2.2.1))
  have acked := pooled.2.2.2.2
  clear_value settled
  exact ⟨settling, acked, (taught_of_isAcked settling).1 0 acked⟩

end Duplex

end Telemetry
