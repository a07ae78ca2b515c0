/-
Everything that can happen to a registry, in five kinds of change. Whatever a program
asks, whatever comes in, and however deep callbacks and edits lie inside each other,
a registry goes from one state to the next by these alone, and what a run commits is
what its changes commit, in their order.

An invariant of the registry is therefore proved for the five changes and holds ever
after.
-/

import Telemetry.Proofs.Registry.History
import Telemetry.Proofs.Registry.Outcome

namespace Telemetry

namespace Registry

/-- One change, with what it commits. -/
inductive Change (registry : Registry) : List Commit → Registry → Prop where
  | opening (tree : Part) (room : registry.opened.length < maxChannels) :
      Change registry []
        { registry with
          opened := registry.opened ++ [Channel.new (UInt8.ofNat registry.opened.length) tree] }
  | rewriting (id : ChannelId) (channel replacement : Channel)
      (found : registry.opened? id = some channel) (sameId : replacement.id = channel.id)
      (acked : channel.acked = true → replacement.acked = true) :
      Change registry [] (registry.setOpened id replacement)
  | answering (id : ChannelId) (channel : Channel) (scratch : Bytes)
      (known : registry.remote.get? id = some channel) :
      Change registry [] (registry.setRemote id { channel with scratch })
  | learning (id : ChannelId) (packet : Bytes) (tree : Part) (scratch : Bytes)
      (read : Packet.readBroadcast packet = .ok (id, tree)) :
      Change registry [.learned id packet]
        (registry.startOver.setRemote id { Channel.new id tree with scratch })
  | filling (id : ChannelId) (packet : Bytes) (payload : Cursor) (stored : Channel) (tree : Part)
      (opened : Packet.opened? packet = .ok ⟨⟨.data, .send⟩, id, payload⟩)
      (known : registry.remote.get? id = some stored)
      (fills : Station.fill stored.tree payload = .ok tree) :
      Change registry [.filled id packet] (registry.fillRemote id { stored with tree })

/-- A run of changes, with all they commit. -/
inductive Changes : Registry → List Commit → Registry → Prop where
  | none (registry : Registry) : Changes registry [] registry
  | more {before middle after : Registry} {commits later : List Commit}
      (first : before.Change commits middle) (rest : Changes middle later after) :
      Changes before (commits ++ later) after

theorem Change.changes {before after : Registry} {commits : List Commit}
    (change : before.Change commits after) : before.Changes commits after := by
  have single := Changes.more change (.none after)
  rw [List.append_nil] at single
  exact single

theorem Changes.trans {before middle after : Registry} {commits later : List Commit}
    (first : before.Changes commits middle) (rest : middle.Changes later after) :
    before.Changes (commits ++ later) after := by
  induction first with
  | none registry => exact rest
  | more change _ ih =>
      rw [List.append_assoc]
      exact .more change (ih rest)

private theorem Changes.trans_silent {before middle after : Registry}
    (first : before.Changes [] middle) (rest : middle.Changes [] after) : before.Changes [] after :=
  first.trans rest

end Registry

namespace Station

variable {δ : Type}

private theorem openChannel_changes (station : Station δ) (tree : Part) :
    station.registry.Changes [] (station.openChannel tree).2.registry := by
  unfold openChannel
  by_cases room : station.registry.opened.length < Registry.maxChannels
  · simp only [if_pos room]
    exact (Registry.Change.opening tree room).changes
  · simp only [if_neg room]
    exact .none station.registry

theorem storeTree_changes (station : Station δ) (id : ChannelId) (tree : Part) :
    station.registry.Changes [] (station.storeTree id tree).registry := by
  unfold storeTree
  cases found : station.registry.opened? id with
  | none => exact .none station.registry
  | some channel =>
      exact (Registry.Change.rewriting id channel { channel with tree } found rfl
        fun still => still).changes

variable [Device δ]

private theorem sendOpened_changes (station : Station δ) (id : ChannelId)
    (packetOf : ChannelId → Part → Except EncodeError Bytes) :
    station.registry.Changes []
      (station.sendOpened (fun channel => channel.keep (packetOf channel.id channel.tree))
        id).2.registry := by
  cases found : station.registry.opened? id with
  | none =>
      rw [sendOpened_unknown found]
      exact .none station.registry
  | some channel =>
      rw [sendOpened_opened found, transmitWritten_registry]
      let fetched := (channel.fetch station.sources).1
      exact (Registry.Change.rewriting id channel
        (fetched.keep (packetOf fetched.id fetched.tree)).2 found rfl fun still => still).changes

private theorem broadcastChannel_changes (station : Station δ) (id : ChannelId) :
    station.registry.Changes [] (station.broadcastChannel id).2.registry :=
  station.sendOpened_changes id Packet.broadcast

private theorem sendData_changes (station : Station δ) (id : ChannelId) :
    station.registry.Changes [] (station.sendData id).2.registry :=
  station.sendOpened_changes id Packet.data

private theorem broadcastEach_changes (station : Station δ) (ids : List ChannelId) :
    station.registry.Changes [] (station.broadcastEach ids).2.registry := by
  induction ids generalizing station with
  | nil => exact .none station.registry
  | cons id rest ih =>
      have first := station.broadcastChannel_changes id
      rw [broadcastEach]
      split
      · next after taken =>
          rw [taken] at first
          exact first.trans_silent (ih after)
      · next error after refused =>
          rw [refused] at first
          exact first

private theorem acknowledge_changes (station : Station δ) (id : ChannelId) :
    station.registry.Changes [] (station.acknowledge id).2.registry := by
  unfold acknowledge sendRemote
  cases known : station.registry.remote.get? id with
  | none => exact .none station.registry
  | some channel =>
      simp only [transmitWritten_registry]
      exact (Registry.Change.answering id channel _ known).changes

private theorem sendRemoteData_changes (station : Station δ) (id : ChannelId) :
    station.registry.Changes [] (station.sendRemoteData id).2.registry := by
  unfold sendRemoteData sendRemote
  cases known : station.registry.remote.get? id with
  | none => exact .none station.registry
  | some channel =>
      simp only [transmitWritten_registry]
      exact (Registry.Change.answering id channel _ known).changes

/-- An advertisement is stored with the answer written from it, if there is one. -/
theorem learn_registry (station : Station δ) (id : ChannelId) (tree : Part) :
    ∃ scratch, (station.learn id tree).1 = { Channel.new id tree with scratch } ∧
      (station.learn id tree).2.registry =
        station.registry.startOver.setRemote id { Channel.new id tree with scratch } := by
  unfold learn
  split
  · refine ⟨Packet.acknowledge id, rfl, ?_⟩
    rw [withRegistry_registry, transmit_registry]
    rfl
  · exact ⟨[], rfl, rfl⟩

end Station

namespace Node

open Registry (Changes)

variable {δ ρ : Type}

private theorem openChannels_changes (node : Node δ ρ) (trees : List Part) :
    node.station.registry.Changes [] (node.openChannels trees).2.station.registry := by
  induction trees generalizing node with
  | nil => exact .none node.station.registry
  | cons tree rest ih =>
      have first := node.station.openChannel_changes tree
      cases rest with
      | nil => exact first
      | cons next rest =>
          exact first.trans_silent (ih (node.withStation (node.station.openChannel tree).2))

variable [Device δ]

/-- What is said to be committed while a node reacts is what then changes. -/
def Accounts (react : Reaction δ ρ) (later : Aftermath δ ρ) : Prop :=
  ∀ occasion channel node,
    Changes node.station.registry (later occasion channel node)
      (react occasion channel node).station.registry

variable {react : Reaction δ ρ} {later : Aftermath δ ρ}

private theorem settle_changes (accounts : Accounts react later) {node : Node δ ρ} {packet : Bytes}
    {result : Except RegistryError Reception × Station δ}
    (outcome : node.station.Outcome packet result) :
    Changes node.station.registry (node.settleCommits later packet result)
      (node.settle react result).2.station.registry := by
  cases outcome with
  | refused error => exact .none node.station.registry
  | learned id tree read =>
      obtain ⟨scratch, _, registry⟩ := node.station.learn_registry id tree
      have learned : Changes node.station.registry [.learned id packet]
          (node.station.registry.startOver.setRemote id { Channel.new id tree with scratch }) :=
        (Registry.Change.learning id packet tree scratch read).changes
      rw [← registry] at learned
      exact learned.trans (accounts .broadcast (node.station.learn id tree).1
        (node.withStation (node.station.learn id tree).2))
  | filled id payload stored tree opened known fills =>
      have filled := (Registry.Change.filling id packet payload stored tree opened known
        fills).changes
      exact filled.trans (accounts .data { stored with tree }
        (node.withStation (node.station.withRegistry
          (node.station.registry.fillRemote id { stored with tree }))))
  | acknowledged id payload channel opened known =>
      exact (Registry.Change.rewriting id channel { channel with acked := true } known rfl
        fun _ => rfl).changes
  | ignored => exact .none node.station.registry

private theorem submit_changes (accounts : Accounts react later) (node : Node δ ρ) (id : ChannelId)
    (values : Part) :
    Changes node.station.registry
      (node.settleCommits later (submittedPacket id values) (node.station.submit id values))
      (node.settle react (node.station.submit id values)).2.station.registry := by
  rcases node.station.submit_outcome id values with ⟨error, refused⟩ | ⟨packet, written, outcome⟩
  · rw [refused]
    exact .none node.station.registry
  · have same : submittedPacket id values = packet := by
      unfold submittedPacket
      rw [written]
      rfl
    rw [same]
    exact settle_changes accounts outcome

mutual

theorem perform_changes (accounts : Accounts react later) : (operation : Operation ρ) →
    (node : Node δ ρ) →
    Changes node.station.registry (commits react later operation node)
      (perform react operation node).2.station.registry
  | .openChannels trees, node => node.openChannels_changes trees
  | .broadcast id, node => node.station.broadcastChannel_changes id
  | .broadcastAll, node => node.station.broadcastEach_changes node.station.registry.openedIds
  | .broadcastUnacked, node =>
      node.station.broadcastEach_changes (node.station.registry.ackedIds false)
  | .sendData id, node => node.station.sendData_changes id
  | .acknowledge id, node => node.station.acknowledge_changes id
  | .sendRemoteData id, node => node.station.sendRemoteData_changes id
  | .submit id values, node => node.submit_changes accounts id values
  | .receive packet, node => settle_changes accounts (node.station.receive_outcome packet)
  | .remoteChannel _, node | .remoteChannels, node | .openedChannel _, node | .isAcked _, node
  | .acknowledges, node | .outline, node => .none node.station.registry
  | .edit id edits, node => by
      unfold perform commits
      cases node.station.registry.opened? id with
      | none => exact .none node.station.registry
      | some channel =>
          have edited := performEdits_changes accounts edits channel node
          have stored := (performEdits react edits channel node).2.2.station.storeTree_changes id
            (performEdits react edits channel node).2.1.tree
          have whole := edited.trans stored
          rw [List.append_nil] at whole
          exact whole

private theorem performEdits_changes (accounts : Accounts react later) : (edits : List (Edit ρ)) →
    (copy : Channel) → (node : Node δ ρ) →
    Changes node.station.registry (editsCommits react later edits copy node)
      (performEdits react edits copy node).2.2.station.registry
  | [], _, node => .none node.station.registry
  | edit :: rest, copy, node =>
      (performEdit_changes accounts edit copy node).trans
        (performEdits_changes accounts rest (performEdit react edit copy node).2.1
          (performEdit react edit copy node).2.2)

private theorem performEdit_changes (accounts : Accounts react later) : (edit : Edit ρ) →
    (copy : Channel) → (node : Node δ ρ) →
    Changes node.station.registry (editCommits react later edit node)
      (performEdit react edit copy node).2.2.station.registry
  | .amend _, _, node => .none node.station.registry
  | .ask operation, _, node => perform_changes accounts operation node

end

theorem react_accounts (depth : Nat) :
    Accounts (Node.react depth : Reaction δ ρ) (reactCommits depth) := by
  induction depth with
  | zero =>
      intro occasion channel node
      unfold Node.react reactCommits
      split
      · exact .none node.station.registry
      · exact .none node.station.registry
  | succ depth ih =>
      intro occasion channel node
      unfold Node.react reactCommits
      cases node.callback? occasion with
      | none => exact .none node.station.registry
      | some callback =>
          simp only
          cases callback.pending with
          | none => exact .none node.station.registry
          | some operation =>
              let called := node.record (node.callOf occasion callback channel)
              let spent := called.install occasion { callback with pending := none }
              have unchanged : spent.station = node.station := install_station _ _ _
              have performed := perform_changes ih operation spent
              rw [unchanged] at performed
              exact performed

theorem turn_changes (node : Node δ ρ) (step : Turn δ ρ) :
    Changes node.station.registry (node.turnCommits step) (node.turn step).station.registry := by
  cases step with
  | ask operation => exact perform_changes (react_accounts occasionCount) operation node
  | install occasion callback => cases occasion <;> exact .none node.station.registry
  | drift sources device => exact .none node.station.registry

/-- In any run a registry changes by what the run's history says, and in that order. -/
theorem turns_changes (node : Node δ ρ) (steps : List (Turn δ ρ)) :
    Changes node.station.registry (node.history steps) (node.turns steps).station.registry := by
  induction steps generalizing node with
  | nil => exact .none node.station.registry
  | cons first rest ih => exact (node.turn_changes first).trans (ih (node.turn first))

end Node

end Telemetry
