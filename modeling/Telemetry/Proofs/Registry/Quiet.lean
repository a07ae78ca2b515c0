/-
Nodes whose callbacks only write what they are called for. Such a node does with a
packet what its station does with it. What a node answers to a packet never
depends on its callbacks, and neither does what an acknowledgement changes.
-/

import Telemetry.Proofs.Registry.History
import Telemetry.Proofs.Registry.Reacting
import Telemetry.Proofs.Registry.Receiving

namespace Telemetry.Node

variable {δ ρ : Type}

/-- No callback is left with an operation to ask. -/
def Quiet (node : Node δ ρ) : Prop :=
  ∀ occasion callback, node.callback? occasion = some callback → callback.pending = none

theorem quiet_fresh (acknowledges : Bool) (sources : Sources) (device : δ) :
    (fresh acknowledges sources device : Node δ ρ).Quiet := by
  intro occasion callback installed
  cases occasion with
  | broadcast => cases installed
  | data => cases installed

theorem Quiet.of_callbacks {node after : Node δ ρ} (quiet : node.Quiet)
    (onBroadcast : after.onBroadcast = node.onBroadcast) (onData : after.onData = node.onData) :
    after.Quiet := by
  intro occasion callback installed
  apply quiet occasion callback
  cases occasion with
  | broadcast => exact onBroadcast.symm.trans installed
  | data => exact onData.symm.trans installed

variable [Device δ]

/-- What a reaction is to a callback that is not there or has no operation. -/
theorem react_idle {node : Node δ ρ} {occasion : Occasion}
    (idle : ∀ callback, node.callback? occasion = some callback → callback.pending = none)
    (depth : Nat) (channel : Channel) :
    Node.react depth occasion channel node =
      match node.callback? occasion with
      | none => node
      | some callback => node.record (node.callOf occasion callback channel) := by
  cases installed : node.callback? occasion with
  | none => exact react_absent installed depth channel
  | some callback => exact react_recorded installed (idle callback installed) depth channel

theorem Quiet.react {node : Node δ ρ} (quiet : node.Quiet) (depth : Nat) (occasion : Occasion)
    (channel : Channel) :
    (Node.react depth occasion channel node).station = node.station ∧
      (Node.react depth occasion channel node).Quiet := by
  rw [react_idle (quiet occasion) depth channel]
  split
  · exact ⟨rfl, quiet⟩
  · exact ⟨rfl, quiet.of_callbacks rfl rfl⟩

theorem run_receive_answer (node : Node δ ρ) (packet : Bytes) :
    (node.run (.receive packet)).1 =
      .ofResult (fun reception => .event reception.event) (node.station.receive packet).1 :=
  settle_answer _ node (node.station.receive packet)

theorem run_receive_refused {node : Node δ ρ} {packet : Bytes} {error : RegistryError}
    (refused : node.station.receive packet = (.error error, node.station)) :
    node.run (.receive packet) = (.failed error, node) := by
  rw [run_receive_eq, refused]
  rfl

theorem Quiet.run_receive {node : Node δ ρ} (quiet : node.Quiet) (packet : Bytes) :
    (node.run (.receive packet)).2.station = (node.station.receive packet).2 ∧
      (node.run (.receive packet)).2.Quiet := by
  have after : (node.withStation (node.station.receive packet).2).Quiet :=
    quiet.of_callbacks rfl rfl
  rw [run_receive_eq]
  obtain same | ⟨occasion, channel, same⟩ :=
    settle_cases (Node.react occasionCount) node (node.station.receive packet)
  · rw [same]
    exact ⟨rfl, after⟩
  · rw [same]
    exact after.react occasionCount occasion channel

/-- Nothing is called for an acknowledgement, or for a packet that is refused. -/
theorem run_receive_silent {node : Node δ ρ} {packet : Bytes}
    (silent : ∀ reception, (node.station.receive packet).1 = .ok reception →
      reception.event.occasion? = none) :
    (node.run (.receive packet)).2 = node.withStation (node.station.receive packet).2 := by
  rw [run_receive_eq]
  unfold settle
  simp only
  cases received : (node.station.receive packet).1 with
  | error error => rfl
  | ok reception =>
      simp only
      rw [silent reception received]

theorem run_acknowledgement (node : Node δ ρ) (id : ChannelId) :
    (node.run (.receive (Packet.acknowledge id))).2 =
      node.withStation (node.station.receiveAcknowledge id).2 := by
  rw [← Station.receive_acknowledge]
  apply run_receive_silent
  intro reception received
  rw [Station.receive_acknowledge] at received
  unfold Station.receiveAcknowledge at received
  split at received
  · cases received
  · cases received
    rfl

theorem Quiet.reactCommits {node : Node δ ρ} (quiet : node.Quiet) (depth : Nat)
    (occasion : Occasion) (channel : Channel) :
    Node.reactCommits depth occasion channel node = [] := by
  cases depth with
  | zero => rfl
  | succ depth =>
      unfold Node.reactCommits
      cases installed : node.callback? occasion with
      | none => rfl
      | some callback =>
          simp only
          rw [quiet occasion callback installed]

theorem Quiet.receive_commits {node : Node δ ρ} (quiet : node.Quiet) (packet : Bytes) :
    node.turnCommits (.ask (.receive packet)) =
      match (node.station.receive packet).1 with
      | .error _ => []
      | .ok reception => (reception.event.commit? packet).toList := by
  have after : (node.withStation (node.station.receive packet).2).Quiet :=
    quiet.of_callbacks rfl rfl
  change node.settleCommits (Node.reactCommits occasionCount) packet
    (node.station.receive packet) = _
  unfold settleCommits
  cases (node.station.receive packet).1 with
  | error error => rfl
  | ok reception =>
      simp only
      split
      · rw [after.reactCommits, List.append_nil]
      · exact List.append_nil _

end Telemetry.Node
