/-
Values that are written back. An end can send what it holds of a channel of the other, and
the packet is a data packet like any other: nothing in it says whose channel the number
means. The receiver looks the number up among what it holds of the sender, so values of a
channel that it opened itself are taken for values of the channel that the sender opened
under the same number. They are taken exactly if they split by the schema of that one.

Nothing else is touched. What is held under other numbers stays, and so do the channels
opened at the receiver; and as long as one of the ends has not taught the other a channel
under the number, nothing happens at all.
-/

import Telemetry.Proofs.Network.Duplex
import Telemetry.Proofs.Registry.Filling
import Telemetry.Proofs.Registry.Representation

namespace Telemetry

namespace Station

variable {δ : Type}

/-- Values go into the channel they are for and nowhere else. -/
private theorem receiveData_frame (station : Station δ) (id : ChannelId) (payload : Cursor)
    (expected : Option Part) :
    (station.receiveData id payload expected).2.registry.opened = station.registry.opened ∧
      ∀ other, other ≠ id →
        (station.receiveData id payload expected).2.registry.remote.get? other =
          station.registry.remote.get? other := by
  have same : station.registry.opened = station.registry.opened ∧
      ∀ other, other ≠ id →
        station.registry.remote.get? other = station.registry.remote.get? other :=
    ⟨rfl, fun _ _ => rfl⟩
  unfold receiveData
  cases station.registry.remote.get? id with
  | none => exact same
  | some stored =>
      simp only
      split
      · cases fill stored.tree payload with
        | error error => exact same
        | ok tree =>
            refine ⟨rfl, ?_⟩
            intro other apart
            exact (Registry.get?_setRemote _ _ _ _).trans (if_neg apart)
      · exact same

end Station

namespace Peer

open Telemetry.Part (Splits)
open Telemetry.Part.LeafValue (taking)

variable {δ ε ρ σ : Type} [Device δ] [Device ε]

/-- What is held of the other end under this number is sent as `packet`, and this is all that
the packet does there before any callback runs. -/
structure WritesBack (peer : Peer δ ρ) (other : Peer ε σ) (id : ChannelId) (held : Channel)
    (packet : Bytes) : Prop where
  written : Packet.data id held.tree = .ok packet
  handed : (peer.node.run (.sendRemoteData id)).2.station.handed = peer.handed ++ [packet]
  unknown : other.node.station.registry.remote.get? id = none →
    other.node.run (.receive packet) = (.failed (.unknownChannel id), other.node)
  taught : ∀ stored, other.node.station.registry.remote.get? id = some stored →
    peer.Taught other id ∧ other.Taught peer id
  refused : ∀ stored, other.node.station.registry.remote.get? id = some stored →
    (¬ ∃ items, Splits stored.tree.values held.tree.dataBytes items) →
      ∃ error, other.node.run (.receive packet) = (.failed (.decode error), other.node)
  taken : ∀ stored items, other.node.station.registry.remote.get? id = some stored →
    Splits stored.tree.values held.tree.dataBytes items →
      ∃ tree : Part, tree.clear = stored.tree.clear ∧
        tree.values = List.zipWith taking stored.tree.values items ∧
        other.node.station.receive packet =
          (.ok ⟨.dataReceived id, some { stored with tree }⟩,
            other.node.station.withRegistry
              (other.node.station.registry.fillRemote id { stored with tree }))
  others : ∀ wanted, wanted ≠ id →
    (other.node.station.receive packet).2.registry.remote.get? wanted =
      other.node.station.registry.remote.get? wanted
  opened : (other.node.station.receive packet).2.registry.opened =
    other.node.station.registry.opened

theorem writesBack {peer : Peer δ ρ} {other : Peer ε σ} (founded : peer.Founded other)
    (foundedOther : other.Founded peer) (orderly : peer.node.station.registry.Orderly)
    {id : ChannelId} {held : Channel}
    (known : peer.node.station.registry.remote.get? id = some held) :
    ∃ packet, peer.WritesBack other id held packet := by
  have fromPeer := orderly.remote id held known
  obtain ⟨packet, written, sends⟩ := Station.sendRemoteData_known known fromPeer.plainTexts
  rw [fromPeer.own] at written
  have same := (Packet.data_eq_ok_iff.mp written).2
  have isData : Header.ofByte (Header.toByte ⟨.data, .send⟩) = ⟨.data, .send⟩ :=
    Header.ofByte_toByte _
  have frame := other.node.station.receiveData_frame id
    (Packet.payloadStart .data .send id held.tree.dataBytes) none
  rw [← Station.receive_data written] at frame
  refine ⟨packet, ?_⟩
  constructor
  case written => exact written
  case handed =>
    change (peer.node.station.sendRemoteData id).2.handed = _
    rw [sends]
    exact Station.transmitWritten_handed _ _
  case unknown =>
    intro absent
    exact Node.run_receive_refused (Station.receive_data_unknown written absent)
  case taught =>
    intro stored found
    exact ⟨(foundedOther.station.remote id stored found).2,
      (founded.station.remote id held known).2⟩
  case refused =>
    intro stored found apart
    obtain ⟨error, receives⟩ := Station.receive_data_of_not_splits found isData apart
    refine ⟨error, ?_⟩
    rw [same]
    exact Node.run_receive_refused receives
  case taken =>
    intro stored items found splits
    obtain ⟨tree, kept, values, receives⟩ := Station.receive_data_of_splits found isData splits
    refine ⟨tree, kept, values, ?_⟩
    rw [same]
    exact receives
  case others => exact frame.2
  case opened => exact frame.1

/-- Whatever an end does, its registry goes from state to state as any registry does. -/
theorem Act.changes {incoming : List Bytes} {peer after : Peer δ ρ}
    (act : peer.Act incoming after) :
    ∃ commits, peer.node.station.registry.Changes commits after.node.station.registry := by
  cases act with
  | ask operation own => exact ⟨_, peer.node.turn_changes (.ask operation)⟩
  | install occasion callback own =>
      exact ⟨_, peer.node.turn_changes (.install occasion callback)⟩
  | store id tree => exact ⟨_, peer.node.station.storeTree_changes id tree⟩
  | drift sources device => exact ⟨_, .none peer.node.station.registry⟩
  | take packet pooled => exact ⟨_, peer.node.turn_changes (.ask (.receive packet))⟩

def asks (peer : Peer δ ρ) (operations : List (Operation ρ)) : Peer δ ρ :=
  operations.foldl (fun peer operation => { peer with node := (peer.node.run operation).2 }) peer

def takes (peer : Peer δ ρ) (packets : List Bytes) : Peer δ ρ := packets.foldl take peer

end Peer

namespace Duplex

variable {δ ε ρ σ : Type}

def swap (duplex : Duplex δ ε ρ σ) : Duplex ε δ σ ρ := ⟨duplex.right, duplex.left⟩

variable [Device δ] [Device ε]

private theorem Reachable.swap {duplex : Duplex δ ε ρ σ} (reachable : duplex.Reachable) :
    duplex.swap.Reachable := by
  induction reachable with
  | start leftAnswers rightAnswers leftSources rightSources leftDevice rightDevice =>
      exact .start rightAnswers leftAnswers rightSources leftSources rightDevice leftDevice
  | step _ step ih =>
      cases step with
      | left act => exact ih.step (.right act)
      | right act => exact ih.step (.left act)

theorem Reachable.orderly {duplex : Duplex δ ε ρ σ} (reachable : duplex.Reachable) :
    duplex.left.node.station.registry.Orderly := by
  induction reachable with
  | start leftAnswers rightAnswers leftSources rightSources leftDevice rightDevice =>
      exact Registry.orderly_nothing leftAnswers
  | step _ step ih =>
      cases step with
      | left act =>
          obtain ⟨_, changes⟩ := act.changes
          exact ih.changes changes
      | right act => exact ih

private theorem Reachable.writesBack {duplex : Duplex δ ε ρ σ} (reachable : duplex.Reachable)
    {id : ChannelId} {held : Channel}
    (known : duplex.left.node.station.registry.remote.get? id = some held) :
    ∃ packet, duplex.left.WritesBack duplex.right id held packet :=
  Peer.writesBack reachable.founded.left reachable.founded.right reachable.orderly known

/-- What one end holds of the other can always be written back, and there it reaches no channel
but the one of the same number that the first end has opened, if the other has learned it. -/
theorem write_back {duplex : Duplex δ ε ρ σ} (reachable : duplex.Reachable) :
    (∀ id held, duplex.left.node.station.registry.remote.get? id = some held →
        ∃ packet, duplex.left.WritesBack duplex.right id held packet) ∧
      ∀ id held, duplex.right.node.station.registry.remote.get? id = some held →
        ∃ packet, duplex.right.WritesBack duplex.left id held packet :=
  ⟨fun _ _ => reachable.writesBack, fun _ _ => reachable.swap.writesBack⟩

private theorem Reachable.asks {duplex : Duplex δ ε ρ σ} (reachable : duplex.Reachable)
    {operations : List (Operation ρ)} (own : ∀ operation ∈ operations, operation.IsOwn) :
    Reachable { duplex with left := duplex.left.asks operations } := by
  induction operations generalizing duplex with
  | nil => exact reachable
  | cons operation rest ih =>
      obtain ⟨first, later⟩ := List.forall_mem_cons.mp own
      exact ih (reachable.step (.left (.ask operation first))) later

private theorem Reachable.takes {duplex : Duplex δ ε ρ σ} (reachable : duplex.Reachable)
    {packets : List Bytes} (pooled : ∀ packet ∈ packets, packet ∈ duplex.right.handed) :
    Reachable { duplex with left := duplex.left.takes packets } ∧
      duplex.left.Grows (duplex.left.takes packets) := by
  induction packets generalizing duplex with
  | nil => exact ⟨reachable, fun _ member => member, fun _ member => member⟩
  | cons packet rest ih =>
      obtain ⟨first, later⟩ := List.forall_mem_cons.mp pooled
      have act : duplex.left.Act duplex.right.handed (duplex.left.take packet) :=
        .take packet first
      have grows := (act.founded reachable.founded.left reachable.founded.right).2
      obtain ⟨reached, grown⟩ := ih (reachable.step (.left act)) later
      exact ⟨reached, grows.trans grown⟩

/-- Both ends take in, in order, all that the other has handed over. -/
private theorem Reachable.exchange {duplex : Duplex δ ε ρ σ} (reachable : duplex.Reachable) :
    Reachable
      { left := duplex.left.takes duplex.right.handed
        right := duplex.right.takes duplex.left.handed } := by
  obtain ⟨reached, grown⟩ := reachable.takes fun _ member => member
  exact (reached.swap.takes grown.handed).1.swap

/-- Two ends that have told each other of a channel and its values, and of nothing else. -/
def acquainted (leftTree rightTree : Part) : Duplex MemoryDevice MemoryDevice Unit Unit :=
  let begun : Peer MemoryDevice Unit := { node := .fresh true .empty { device := .sound } }
  let left := begun.asks [.openChannels [leftTree], .broadcast 0, .sendData 0]
  let right := begun.asks [.openChannels [rightTree], .broadcast 0, .sendData 0]
  { left := left.takes right.handed, right := right.takes left.handed }

private theorem reachable_acquainted (leftTree rightTree : Part) :
    (acquainted leftTree rightTree).Reachable := by
  let begun : Peer MemoryDevice Unit := { node := .fresh true .empty { device := .sound } }
  have started : Reachable { left := begun, right := begun } :=
    .start true true .empty .empty MemoryDevice.sound MemoryDevice.sound
  have own : ∀ tree, ∀ operation ∈ [.openChannels [tree], .broadcast 0, .sendData 0],
      (operation : Operation Unit).IsOwn := by
    intro tree
    exact List.forall_mem_cons.mpr ⟨trivial,
      List.forall_mem_cons.mpr ⟨trivial, List.forall_mem_singleton.mpr trivial⟩⟩
  exact ((started.asks (own leftTree)).swap.asks (own rightTree)).swap.exchange

/-- A text that is written back is taken for the two numbers that its bytes would be. -/
theorem write_back_of_text :
    let duplex := acquainted
      (.record "r" [.number "a" (.zero .uint8) none, .number "b" (.zero .uint8) none])
      (.text "s" "x" none)
    let valuesAt := fun registry : Registry => (registry.known? 0).map Part.values
    duplex.Reachable ∧ valuesAt duplex.left.node.station.registry = some [.text "x"] ∧
      ∃ held packet, duplex.left.node.station.registry.remote.get? 0 = some held ∧
        duplex.left.WritesBack duplex.right 0 held packet ∧
        valuesAt (duplex.right.node.station.receive packet).2.registry =
          some [.number (.ofPattern .uint8 0x78), .number (.zero .uint8)] := by
  intro duplex valuesAt
  have reachable : duplex.Reachable := reachable_acquainted _ _
  have text : valuesAt duplex.left.node.station.registry = some [.text "x"] := by
    decide +kernel
  have numbers : valuesAt duplex.right.node.station.registry =
      some [.number (.zero .uint8), .number (.zero .uint8)] := by
    decide +kernel
  clear_value duplex
  obtain ⟨_, atLeft, heldValues⟩ := Option.map_eq_some_iff.mp text
  obtain ⟨held, known, rfl⟩ := Option.map_eq_some_iff.mp atLeft
  obtain ⟨_, atRight, storedValues⟩ := Option.map_eq_some_iff.mp numbers
  obtain ⟨stored, found, rfl⟩ := Option.map_eq_some_iff.mp atRight
  obtain ⟨packet, writes⟩ := (write_back reachable).1 0 held known
  have splits : Part.Splits stored.tree.values held.tree.dataBytes [[0x78], [0]] := by
    rw [storedValues, Part.dataBytes, Part.dataItems_eq_map, heldValues]
    exact ⟨.cons rfl (.cons rfl .nil), by decide +kernel⟩
  obtain ⟨tree, _, values, receives⟩ := writes.taken stored _ found splits
  refine ⟨reachable, text, held, packet, known, writes, ?_⟩
  have after := Registry.get?_setRemote_self duplex.right.node.station.registry 0
    { stored with tree }
  have kept : (duplex.right.node.station.receive packet).2.registry.known? 0 = some tree := by
    rw [receives]
    exact Registry.known?_of_get? after
  change Option.map Part.values _ = _
  rw [kept, Option.map_some, values, storedValues]
  decide +kernel

/-- An end loses what it holds of the other. Both ends number their channels from the same
start, so what is written back for one channel comes in for another. -/
theorem overwritten_by_write_back :
    let tree := fun value => Part.record "r" [.number "n" (.ofPattern .int16 value) none]
    let duplex := acquainted (tree 5) (tree 7)
    let packet := Packet.sealed (Packet.preamble .data .send 0 ++ (tree 7).dataBytes)
    let valuesAt := fun node : Node (Tapped MemoryDevice) Unit =>
      (node.station.registry.known? 0).map Part.values
    duplex.Reachable ∧
      (duplex.left.node.run (.sendRemoteData 0)).2.station.handed =
        duplex.left.handed ++ [packet] ∧
      valuesAt duplex.right.node = some (tree 5).values ∧
      valuesAt (duplex.right.node.run (.receive packet)).2 = some (tree 7).values := by
  intro tree duplex packet valuesAt
  exact ⟨reachable_acquainted (tree 5) (tree 7), by decide +kernel⟩

end Duplex

end Telemetry
