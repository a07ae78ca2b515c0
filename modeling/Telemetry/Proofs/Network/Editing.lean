/-
The operations of a program are made of steps of the network. An edit takes its copy,
does everything it does in between, other edits of the same channel included, and
stores what became of the copy; so it leaves the sender where a run of steps leaves
it, and what holds of every reachable network holds after it.
-/

import Telemetry.Proofs.Network

namespace Telemetry

mutual

/-- What a sender is asked: nothing that takes packets in or answers for a channel of
the peer, and only trees that can be advertised and edits that keep the schema. -/
def Operation.Sends {ρ : Type} : Operation ρ → Prop
  | .openChannels trees => ∀ tree ∈ trees, tree.Advertisable
  | .edit _ edits => Edit.KeepSchema edits
  | .acknowledge _ | .sendRemoteData _ | .submit _ _ | .receive _ => False
  | .broadcast _ | .broadcastAll | .broadcastUnacked | .sendData _ => True
  | .remoteChannel _ | .remoteChannels | .openedChannel _ | .isAcked _ => True
  | .acknowledges | .outline => True

def Edit.KeepSchema {ρ : Type} : List (Edit ρ) → Prop
  | [] => True
  | edit :: rest => edit.KeepsSchema ∧ Edit.KeepSchema rest

def Edit.KeepsSchema {ρ : Type} : Edit ρ → Prop
  | .amend act => ∀ channel sources,
      (act channel sources).2.1.tree.sameSchema channel.tree = true
  | .ask operation => operation.Sends

end

namespace Network

variable {δ ε ρ : Type} [Device δ] [Device ε]

/-- A run of steps that leaves the sender like this, the receiver as it was, and every
edit under way still under way. -/
structure Reaches (network after : Network δ ε ρ) (sender : Node (Tapped δ) ρ) : Prop where
  reachable : after.Reachable
  sender : after.sender = sender
  receiver : after.receiver = network.receiver
  taken : ∀ entry ∈ network.taken, entry ∈ after.taken

mutual

private theorem perform_reaches (react : Node.Reaction (Tapped δ) ρ) : (operation : Operation ρ) →
    operation.Sends → (network : Network δ ε ρ) → network.Reachable →
    ∃ after, network.Reaches after (Node.perform react operation network.sender).2
  | .openChannels trees, fit, network, reachable =>
      ⟨_, reachable.step (.openChannels trees fit), rfl, rfl, fun _ member => member⟩
  | .broadcast id, _, network, reachable =>
      ⟨_, reachable.step (.broadcast id), rfl, rfl, fun _ member => member⟩
  | .broadcastAll, _, network, reachable =>
      ⟨_, reachable.step .broadcastAll, rfl, rfl, fun _ member => member⟩
  | .broadcastUnacked, _, network, reachable =>
      ⟨_, reachable.step .broadcastUnacked, rfl, rfl, fun _ member => member⟩
  | .sendData id, _, network, reachable =>
      ⟨_, reachable.step (.sendData id), rfl, rfl, fun _ member => member⟩
  | .remoteChannel _, _, network, reachable | .remoteChannels, _, network, reachable
  | .openedChannel _, _, network, reachable | .isAcked _, _, network, reachable
  | .acknowledges, _, network, reachable | .outline, _, network, reachable =>
      ⟨network, reachable, rfl, rfl, fun _ member => member⟩
  | .edit id edits, keep, network, reachable => by
      unfold Node.perform
      cases opened : network.sender.station.registry.opened? id with
      | none => exact ⟨network, reachable, rfl, rfl, fun _ member => member⟩
      | some channel =>
          have begun := reachable.step (.beginEdit id)
          have copied : (id, channel.tree) ∈
              network.taken ++ network.sender.station.registry.snapshot id := by
            rw [Registry.snapshot_of_opened? opened]
            exact List.mem_append_right network.taken List.mem_cons_self
          obtain ⟨middle, reaches, kept⟩ := performEdits_reaches react edits keep _ begun channel
          have ended := reaches.reachable.step
            (.endEdit id channel.tree _ (reaches.taken _ copied) kept)
          refine ⟨_, ended, ?_, reaches.receiver, ?_⟩
          · unfold placed
            rw [reaches.sender]
          · intro entry member
            exact reaches.taken entry (List.mem_append_left _ member)

private theorem performEdits_reaches (react : Node.Reaction (Tapped δ) ρ) :
    (edits : List (Edit ρ)) →
    Edit.KeepSchema edits → (network : Network δ ε ρ) → network.Reachable → (copy : Channel) →
    ∃ after, network.Reaches after (Node.performEdits react edits copy network.sender).2.2 ∧
      (Node.performEdits react edits copy network.sender).2.1.tree.sameSchema copy.tree = true
  | [], _, network, reachable, copy => by
      refine ⟨network, ⟨reachable, rfl, rfl, fun _ member => member⟩, ?_⟩
      exact (Part.sameSchema_iff_blank _ _).mpr rfl
  | edit :: rest, keep, network, reachable, copy => by
      obtain ⟨middle, first, keptFirst⟩ :=
        performEdit_reaches react edit keep.1 network reachable copy
      obtain ⟨after, later, keptLater⟩ :=
        performEdits_reaches react rest keep.2 middle first.reachable
          (Node.performEdit react edit copy network.sender).2.1
      rw [first.sender] at later keptLater
      refine ⟨after, ⟨later.reachable, later.sender, ?_, ?_⟩, ?_⟩
      · exact later.receiver.trans first.receiver
      · exact fun entry member => later.taken entry (first.taken entry member)
      · have sameFirst := (Part.sameSchema_iff_blank _ _).mp keptFirst
        have sameLater := (Part.sameSchema_iff_blank _ _).mp keptLater
        exact (Part.sameSchema_iff_blank _ _).mpr (sameLater.trans sameFirst)

private theorem performEdit_reaches (react : Node.Reaction (Tapped δ) ρ) : (edit : Edit ρ) →
    edit.KeepsSchema → (network : Network δ ε ρ) → network.Reachable → (copy : Channel) →
    ∃ after, network.Reaches after (Node.performEdit react edit copy network.sender).2.2 ∧
      (Node.performEdit react edit copy network.sender).2.1.tree.sameSchema copy.tree = true
  | .amend act, keep, network, reachable, copy => by
      have moved := reachable.step
        (.drift (act copy network.sender.station.sources).2.2 network.sender.station.device.device)
      exact ⟨_, ⟨moved, rfl, rfl, fun _ member => member⟩,
        keep copy network.sender.station.sources⟩
  | .ask operation, sends, network, reachable, copy => by
      obtain ⟨after, reaches⟩ := perform_reaches react operation sends network reachable
      refine ⟨after, reaches, ?_⟩
      exact (Part.sameSchema_iff_blank _ _).mpr rfl

end

/-- Whatever a program asks of a sender leads to a reachable network again. -/
theorem Reachable.run {network : Network δ ε ρ} (reachable : network.Reachable)
    {operation : Operation ρ} (sends : operation.Sends) :
    ∃ after : Network δ ε ρ, after.Reachable ∧ after.sender = (network.sender.run operation).2 ∧
      after.receiver = network.receiver := by
  obtain ⟨after, reaches⟩ :=
    perform_reaches (Node.react Node.occasionCount) operation sends network reachable
  exact ⟨after, reaches.reachable, reaches.sender, reaches.receiver⟩

end Network

end Telemetry
