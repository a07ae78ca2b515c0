/-
All that a program's own operations come to. Whatever it asks of a registry, short of
taking packets in, and however deep callbacks and edits lie inside each other, a station
goes from one state to the next by a few moves, and every packet it hands over was written
from a channel as it is stored at that time.

An invariant of a station is therefore proved for the moves and holds behind any
operation. What may become of the tree of an opened channel is left open, for programs
that edit their channels and for those that only refresh them.
-/

import Mathlib.Logic.Relation
import Telemetry.Proofs.Registry.Outcome

namespace Telemetry

/-- The packets there are to be written from the channels of a registry. -/
inductive Registry.Issues (registry : Registry) (packet : Bytes) : Prop where
  | advertisement (id : ChannelId) (channel : Channel)
      (found : registry.opened? id = some channel)
      (written : Packet.broadcast channel.id channel.tree = .ok packet)
  | values (id : ChannelId) (channel : Channel)
      (held : registry.opened? id = some channel ∨ registry.remote.get? id = some channel)
      (written : Packet.data channel.id channel.tree = .ok packet)
  | acknowledgement (id : ChannelId) (channel : Channel)
      (known : registry.remote.get? id = some channel)
      (written : packet = Packet.acknowledge channel.id)

namespace Station

variable {δ : Type} [Device δ]

inductive Move (changes : Part → Part → Prop) (station : Station δ) : Station δ → Prop where
  | opening (tree : Part) (room : station.registry.opened.length < Registry.maxChannels) :
      Move changes station
        (station.withRegistry
          { station.registry with
            opened := station.registry.opened ++
              [Channel.new (UInt8.ofNat station.registry.opened.length) tree] })
  | rewriting (id : ChannelId) (channel : Channel) (tree : Part) (scratch : Bytes)
      (found : station.registry.opened? id = some channel) (changed : changes channel.tree tree) :
      Move changes station
        (station.withRegistry (station.registry.setOpened id { channel with tree, scratch }))
  | answering (id : ChannelId) (channel : Channel) (scratch : Bytes)
      (known : station.registry.remote.get? id = some channel) :
      Move changes station
        (station.withRegistry (station.registry.setRemote id { channel with scratch }))
  | filling (id : ChannelId) (channel : Channel) (tree : Part)
      (known : station.registry.remote.get? id = some channel) :
      Move changes station
        (station.withRegistry (station.registry.fillRemote id { channel with tree }))
  | handing (packet : Bytes) (issued : station.registry.Issues packet) :
      Move changes station (station.transmit packet).2
  | drawing (sources : Sources) : Move changes station { station with sources }

def Moves (changes : Part → Part → Prop) : Station δ → Station δ → Prop :=
  Relation.ReflTransGen (Move changes)

variable {changes : Part → Part → Prop} {station : Station δ}

theorem Move.moves {after : Station δ} (move : Move changes station after) :
    Moves changes station after :=
  .single move

theorem Moves.keeps {holds : Station δ → Prop} {after : Station δ}
    (each : ∀ {station after : Station δ}, Move changes station after → holds station →
      holds after)
    (moves : Moves changes station after) (begun : holds station) : holds after := by
  induction moves with
  | refl => exact begun
  | tail _ move ih => exact each move ih

theorem openChannel_moves (station : Station δ) (tree : Part) :
    Moves changes station (station.openChannel tree).2 := by
  unfold openChannel
  by_cases room : station.registry.opened.length < Registry.maxChannels
  · simp only [if_pos room]
    exact (Move.opening tree room).moves
  · simp only [if_neg room]
    exact .refl

theorem storeTree_moves (any : ∀ before after, changes before after) (station : Station δ)
    (id : ChannelId) (tree : Part) : Moves changes station (station.storeTree id tree) := by
  unfold storeTree
  cases found : station.registry.opened? id with
  | none => exact .refl
  | some channel =>
      exact (Move.rewriting id channel tree channel.scratch found (any channel.tree tree)).moves

private theorem transmitWritten_moves {packet : Except EncodeError Bytes}
    (issued : ∀ bytes, packet = .ok bytes → station.registry.Issues bytes) :
    Moves changes station (station.transmitWritten packet).2 := by
  cases packet with
  | error error => exact .refl
  | ok bytes =>
      rw [transmitWritten_after]
      exact (Move.handing bytes (issued bytes rfl)).moves

/-- What is written from an opened channel is written from the tree it is left with. -/
private theorem sendOpened_moves
    (refreshes : ∀ (tree : Part) sources, changes tree (tree.fetch sources).1)
    (packetOf : ChannelId → Part → Except EncodeError Bytes)
    (issues : ∀ (registry : Registry) id channel packet, registry.opened? id = some channel →
      packetOf channel.id channel.tree = .ok packet → registry.Issues packet)
    (station : Station δ) (id : ChannelId) :
    Moves changes station
      (station.sendOpened (fun channel => channel.keep (packetOf channel.id channel.tree)) id).2 := by
  cases found : station.registry.opened? id with
  | none =>
      rw [sendOpened_unknown found]
      exact .refl
  | some channel =>
      rw [sendOpened_opened found]
      let fetched := channel.tree.fetch station.sources
      let packet := packetOf channel.id fetched.1
      let written : Channel :=
        { channel with tree := fetched.1, scratch := packet.toOption.getD [] }
      -- The channel is stored first, so its packet is one of the registry that hands it over.
      let stored := station.withRegistry (station.registry.setOpened id written)
      have storing : Moves changes station stored :=
        (Move.rewriting id channel fetched.1 written.scratch found
          (refreshes channel.tree station.sources)).moves
      have drawing : Moves changes stored { stored with sources := fetched.2 } :=
        (Move.drawing fetched.2).moves
      have sending : Moves changes { stored with sources := fetched.2 }
          (Station.transmitWritten { stored with sources := fetched.2 } packet).2 := by
        apply transmitWritten_moves
        intro bytes same
        refine issues _ id written bytes ?_ same
        have inside := (List.getElem?_eq_some_iff.mp found).1
        exact List.getElem?_set_self inside
      exact (storing.trans drawing).trans sending

theorem broadcastChannel_moves
    (refreshes : ∀ (tree : Part) sources, changes tree (tree.fetch sources).1)
    (station : Station δ) (id : ChannelId) :
    Moves changes station (station.broadcastChannel id).2 :=
  sendOpened_moves refreshes Packet.broadcast
    (fun _ id channel _ found written => .advertisement id channel found written) station id

theorem sendData_moves
    (refreshes : ∀ (tree : Part) sources, changes tree (tree.fetch sources).1)
    (station : Station δ) (id : ChannelId) : Moves changes station (station.sendData id).2 :=
  sendOpened_moves refreshes Packet.data
    (fun _ id channel _ found written => .values id channel (Or.inl found) written) station id

theorem broadcastEach_moves
    (refreshes : ∀ (tree : Part) sources, changes tree (tree.fetch sources).1)
    (station : Station δ) (ids : List ChannelId) :
    Moves changes station (station.broadcastEach ids).2 := by
  induction ids generalizing station with
  | nil => exact .refl
  | cons id rest ih =>
      have first := broadcastChannel_moves refreshes station id
      rw [broadcastEach]
      split
      · next after taken =>
          rw [taken] at first
          exact first.trans (ih after)
      · next error after refused =>
          rw [refused] at first
          exact first

private theorem sendRemote_moves (packetOf : ChannelId → Part → Except EncodeError Bytes)
    (issues : ∀ (registry : Registry) id channel packet, registry.remote.get? id = some channel →
      packetOf channel.id channel.tree = .ok packet → registry.Issues packet)
    (station : Station δ) (id : ChannelId) :
    Moves changes station
      (station.sendRemote (fun channel => channel.keep (packetOf channel.id channel.tree)) id).2 := by
  unfold sendRemote
  cases known : station.registry.remote.get? id with
  | none => exact .refl
  | some channel =>
      let packet := packetOf channel.id channel.tree
      let written : Channel := { channel with scratch := packet.toOption.getD [] }
      let stored := station.withRegistry (station.registry.setRemote id written)
      have storing : Moves changes station stored :=
        (Move.answering id channel written.scratch known).moves
      have sending : Moves changes stored (stored.transmitWritten packet).2 := by
        apply transmitWritten_moves
        intro bytes same
        refine issues _ id written bytes ?_ same
        show (station.registry.remote.insert id written).get? id = some written
        rw [ChannelTable.get?_insert, if_pos rfl]
      exact storing.trans sending

theorem sendRemoteData_moves (station : Station δ) (id : ChannelId) :
    Moves changes station (station.sendRemoteData id).2 :=
  sendRemote_moves Packet.data
    (fun _ id channel _ known written => .values id channel (Or.inr known) written) station id

theorem acknowledge_moves (station : Station δ) (id : ChannelId) :
    Moves changes station (station.acknowledge id).2 :=
  sendRemote_moves (fun id _ => .ok (Packet.acknowledge id))
    (fun _ id channel _ known written =>
      .acknowledgement id channel known (Except.ok.inj written).symm) station id

private theorem receiveData_moves (station : Station δ) (id : ChannelId) (payload : Cursor)
    (expected : Option Part) :
    Moves changes station (station.receiveData id payload expected).2 := by
  unfold receiveData
  split
  · exact .refl
  · next stored known =>
      split
      · split
        · exact .refl
        · next tree _ => exact (Move.filling id stored tree known).moves
      · exact .refl

theorem submit_moves (station : Station δ) (id : ChannelId) (values : Part) :
    Moves changes station (station.submit id values).2 := by
  unfold submit
  split
  · exact .refl
  · split
    · exact .refl
    · next opened _ => exact receiveData_moves station opened.id opened.payload (some values)

end Station

mutual

/-- What takes no packet in, and asks nothing that does. -/
def Operation.IsOwn {ρ : Type} : Operation ρ → Prop
  | .receive _ => False
  | .edit _ edits => Edit.AreOwn edits
  | .openChannels _ | .broadcast _ | .broadcastAll | .broadcastUnacked | .sendData _ => True
  | .acknowledge _ | .sendRemoteData _ | .submit _ _ => True
  | .remoteChannel _ | .remoteChannels | .openedChannel _ | .isAcked _ => True
  | .acknowledges | .outline => True

def Edit.AreOwn {ρ : Type} : List (Edit ρ) → Prop
  | [] => True
  | edit :: rest => edit.IsOwn ∧ Edit.AreOwn rest

def Edit.IsOwn {ρ : Type} : Edit ρ → Prop
  | .amend _ => True
  | .ask operation => operation.IsOwn

end

/-- What a sender may be asked that only opens, advertises and sends. -/
def Operation.IsSending {ρ : Type} : Operation ρ → Prop
  | .openChannels _ | .broadcast _ | .broadcastAll | .broadcastUnacked | .sendData _ => True
  | _ => False

namespace Node

open Station (Moves)

variable {δ ρ : Type}

/-- What callbacks have still to do takes no packet in. -/
def Tame (node : Node δ ρ) : Prop :=
  ∀ occasion callback operation, node.callback? occasion = some callback →
    callback.pending = some operation → operation.IsOwn

theorem Tame.install {node : Node δ ρ} (tame : node.Tame) (occasion : Occasion)
    {callback : Callback ρ}
    (own : ∀ operation, callback.pending = some operation → operation.IsOwn) :
    (node.install occasion callback).Tame := by
  intro wanted found operation installed waits
  rw [callback?_install] at installed
  by_cases here : wanted = occasion
  · rw [if_pos here, Option.some.injEq] at installed
    subst installed
    exact own operation waits
  · rw [if_neg here] at installed
    exact tame wanted found operation installed waits

private theorem Tame.calling {node : Node δ ρ} (tame : node.Tame) (occasion : Occasion)
    (callback : Callback ρ) (channel : Channel) :
    (node.calling occasion callback channel).Tame := by
  have recorded : (node.record (node.callOf occasion callback channel)).Tame := tame
  apply recorded.install occasion
  intro _ impossible
  cases impossible

variable [Device δ]

theorem openChannels_moves {changes : Part → Part → Prop} (node : Node δ ρ) (trees : List Part) :
    ∃ station, (node.openChannels trees).2 = node.withStation station ∧
      Moves changes node.station station := by
  induction trees generalizing node with
  | nil => exact ⟨node.station, rfl, .refl⟩
  | cons tree rest ih =>
      have first : Moves changes node.station (node.station.openChannel tree).2 :=
        node.station.openChannel_moves tree
      cases rest with
      | nil => exact ⟨(node.station.openChannel tree).2, rfl, first⟩
      | cons next rest =>
          obtain ⟨station, same, later⟩ := ih (node.withStation (node.station.openChannel tree).2)
          exact ⟨station, same, first.trans later⟩

/-- A relation that holds between a node and what moves and reactions make of it. It holds
between a node and what its own operations make of it, and if it holds for packets that are
taken in, any operation. -/
structure Spans (react : Reaction δ ρ) (relates : Node δ ρ → Node δ ρ → Prop) : Prop where
  refl (node : Node δ ρ) : relates node node
  trans {before middle after : Node δ ρ} (first : relates before middle)
    (later : relates middle after) : relates before after
  moving (node : Node δ ρ) {station : Station δ}
    (moves : Moves (fun _ _ => True) node.station station) : relates node (node.withStation station)
  reacting (occasion : Occasion) (channel : Channel) (node : Node δ ρ) :
    relates node (react occasion channel node)

/-- It also holds between a node and what taking a packet in makes of it. -/
def Admits (relates : Node δ ρ → Node δ ρ → Prop) : Prop :=
  ∀ (node : Node δ ρ) (packet : Bytes),
    relates node (node.withStation (node.station.receive packet).2)

section Spans

variable {react : Reaction δ ρ} {relates : Node δ ρ → Node δ ρ → Prop}

private theorem Spans.settle (spans : Spans react relates) {node : Node δ ρ}
    {result : Except RegistryError Reception × Station δ}
    (arrived : relates node (node.withStation result.2)) :
    relates node (node.settle react result).2 := by
  obtain same | ⟨occasion, channel, same⟩ := settle_cases react node result
  · rw [same]
    exact arrived
  · rw [same]
    exact spans.trans arrived (spans.reacting occasion channel (node.withStation result.2))

mutual

theorem Spans.perform (spans : Spans react relates) : (operation : Operation ρ) →
    operation.IsOwn ∨ Admits relates → (node : Node δ ρ) →
    relates node (perform react operation node).2
  | .openChannels trees, _, node => by
      obtain ⟨station, same, moves⟩ := node.openChannels_moves trees
      unfold Node.perform
      rw [same]
      exact spans.moving node moves
  | .broadcast id, _, node =>
      spans.moving node (node.station.broadcastChannel_moves (fun _ _ => trivial) id)
  | .broadcastAll, _, node =>
      spans.moving node
        (node.station.broadcastEach_moves (fun _ _ => trivial) node.station.registry.openedIds)
  | .broadcastUnacked, _, node =>
      spans.moving node (node.station.broadcastEach_moves (fun _ _ => trivial)
        (node.station.registry.ackedIds false))
  | .sendData id, _, node =>
      spans.moving node (node.station.sendData_moves (fun _ _ => trivial) id)
  | .acknowledge id, _, node => spans.moving node (node.station.acknowledge_moves id)
  | .sendRemoteData id, _, node => spans.moving node (node.station.sendRemoteData_moves id)
  | .submit id values, _, node =>
      spans.settle (spans.moving node (node.station.submit_moves id values))
  | .receive packet, allowed, node => spans.settle (allowed.resolve_left id node packet)
  | .remoteChannel _, _, node | .remoteChannels, _, node | .openedChannel _, _, node
  | .isAcked _, _, node | .acknowledges, _, node | .outline, _, node => spans.refl node
  | .edit id edits, allowed, node => by
      unfold Node.perform
      cases node.station.registry.opened? id with
      | none => exact spans.refl node
      | some channel =>
          exact spans.trans (spans.performEdits edits allowed channel node)
            (spans.moving _ (Station.storeTree_moves (fun _ _ => trivial) _ id _))

private theorem Spans.performEdits (spans : Spans react relates) : (edits : List (Edit ρ)) →
    Edit.AreOwn edits ∨ Admits relates → (copy : Channel) → (node : Node δ ρ) →
    relates node (performEdits react edits copy node).2.2
  | [], _, _, node => spans.refl node
  | edit :: rest, allowed, copy, node =>
      spans.trans (spans.performEdit edit (allowed.imp_left And.left) copy node)
        (spans.performEdits rest (allowed.imp_left And.right)
          (Node.performEdit react edit copy node).2.1
          (Node.performEdit react edit copy node).2.2)

private theorem Spans.performEdit (spans : Spans react relates) : (edit : Edit ρ) →
    edit.IsOwn ∨ Admits relates → (copy : Channel) → (node : Node δ ρ) →
    relates node (performEdit react edit copy node).2.2
  | .amend act, _, copy, node =>
      spans.moving node (Station.Move.drawing (act copy node.station.sources).2.2).moves
  | .ask operation, allowed, _, node => spans.perform operation allowed node

end

end Spans

theorem sending_moves {changes : Part → Part → Prop}
    (refreshes : ∀ (tree : Part) sources, changes tree (tree.fetch sources).1) (node : Node δ ρ)
    {operation : Operation ρ} (sending : operation.IsSending) :
    Moves changes node.station (node.run operation).2.station := by
  cases operation with
  | openChannels trees =>
      obtain ⟨station, same, moves⟩ := node.openChannels_moves trees
      unfold run perform
      rw [same]
      exact moves
  | broadcast id => exact node.station.broadcastChannel_moves refreshes id
  | broadcastAll =>
      exact node.station.broadcastEach_moves refreshes node.station.registry.openedIds
  | broadcastUnacked =>
      exact node.station.broadcastEach_moves refreshes (node.station.registry.ackedIds false)
  | sendData id => exact node.station.sendData_moves refreshes id
  | _ => cases sending

/-- What is left of a node by operations of its own program, which may edit channels as it
likes. -/
structure Follows (before after : Node δ ρ) : Prop where
  moves : Moves (fun _ _ => True) before.station after.station
  tame : before.Tame → after.Tame

private theorem Follows.refl (node : Node δ ρ) : Follows node node := ⟨.refl, id⟩

private theorem Follows.trans {before middle after : Node δ ρ} (first : before.Follows middle)
    (later : middle.Follows after) : before.Follows after :=
  ⟨first.moves.trans later.moves, later.tame ∘ first.tame⟩

private theorem Follows.moving (node : Node δ ρ) {station : Station δ}
    (moves : Moves (fun _ _ => True) node.station station) : node.Follows (node.withStation station) :=
  ⟨moves, id⟩

/-- The node reacts by operations of its own as long as callbacks hold no others. -/
def Mild (react : Reaction δ ρ) : Prop :=
  ∀ occasion channel node, node.Tame → Follows node (react occasion channel node)

variable {react : Reaction δ ρ}

private theorem settle_follows (mild : Mild react) {node : Node δ ρ} (tame : node.Tame)
    (result : Except RegistryError Reception × Station δ) :
    (node.withStation result.2).Follows (node.settle react result).2 := by
  obtain same | ⟨occasion, channel, same⟩ := settle_cases react node result
  · rw [same]
    exact .refl _
  · rw [same]
    exact mild occasion channel (node.withStation result.2) tame

theorem perform_follows (mild : Mild react) (operation : Operation ρ) (own : operation.IsOwn)
    (node : Node δ ρ) (tame : node.Tame) : node.Follows (perform react operation node).2 := by
  have spans : Spans react fun before after => before.Tame → before.Follows after :=
    { refl := fun node _ => .refl node
      trans := fun first later tame => (first tame).trans (later ((first tame).tame tame))
      moving := fun node _ moves _ => .moving node moves
      reacting := mild }
  exact spans.perform operation (.inl own) node tame

theorem react_mild (depth : Nat) : Mild (Node.react depth : Reaction δ ρ) := by
  refine react_induction (motive := fun before after => before.Tame → before.Follows after)
    (fun node _ => .refl node) (fun _ _ _ => ⟨.refl, id⟩) ?_ depth
  intro react mild node occasion callback operation channel installed waits asked tame
  have called := tame.calling occasion callback channel
  have own := tame occasion callback operation installed waits
  have performed := perform_follows mild operation own _ called
  exact ⟨node.calling_station occasion callback channel ▸ performed.moves,
    fun _ => performed.tame called⟩

theorem run_follows {node : Node δ ρ} (tame : node.Tame) {operation : Operation ρ}
    (own : operation.IsOwn) : node.Follows (node.run operation).2 :=
  perform_follows (react_mild occasionCount) operation own node tame

/-- Behind what a packet does at once there are only moves of the node's own. -/
theorem run_receive_follows {node : Node δ ρ} (tame : node.Tame) (packet : Bytes) :
    (node.withStation (node.station.receive packet).2).Follows (node.run (.receive packet)).2 :=
  settle_follows (react_mild occasionCount) tame (node.station.receive packet)

end Node

end Telemetry
