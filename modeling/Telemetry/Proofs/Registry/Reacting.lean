/-
What becomes of a node that may react. An input leaves what was received in the station, and
behind that there is one reaction or none. A reaction calls nothing, enters one call, or
enters a call and lets its operation be asked by a reaction that lies one deeper.

So what is to hold of reactions, however deep, is shown for these three.
-/

import Telemetry.Registry.Node

namespace Telemetry.Node

variable {δ ρ : Type}

theorem settle_answer (react : Reaction δ ρ) (node : Node δ ρ)
    (result : Except RegistryError Reception × Station δ) :
    (node.settle react result).1 =
      .ofResult (fun reception => .event reception.event) result.1 := by
  obtain ⟨outcome, station⟩ := result
  unfold settle
  cases outcome with
  | error error => rfl
  | ok reception =>
      simp only
      split <;> rfl

theorem settle_cases (react : Reaction δ ρ) (node : Node δ ρ)
    (result : Except RegistryError Reception × Station δ) :
    (node.settle react result).2 = node.withStation result.2 ∨
      ∃ occasion channel,
        (node.settle react result).2 = react occasion channel (node.withStation result.2) := by
  obtain ⟨outcome, station⟩ := result
  unfold settle
  cases outcome with
  | error error => exact .inl rfl
  | ok reception =>
      simp only
      split
      · next occasion channel _ _ => exact .inr ⟨occasion, channel, rfl⟩
      · exact .inl rfl

/-- The node as the operation of a callback finds it: the call is entered, and the operation
is gone from the callback. -/
def calling (node : Node δ ρ) (occasion : Occasion) (callback : Callback ρ) (channel : Channel) :
    Node δ ρ :=
  (node.record (node.callOf occasion callback channel)).install occasion
    { callback with pending := none }

section

variable (node : Node δ ρ) (occasion : Occasion) (callback : Callback ρ) (channel : Channel)

@[simp]
theorem calling_station : (node.calling occasion callback channel).station = node.station := by
  simp [calling]

@[simp]
theorem calling_log :
    (node.calling occasion callback channel).log =
      node.log ++ [node.callOf occasion callback channel] := by
  simp [calling, record]

end

variable [Device δ]

theorem run_receive_eq (node : Node δ ρ) (packet : Bytes) :
    node.run (.receive packet) =
      node.settle (Node.react occasionCount) (node.station.receive packet) :=
  rfl

theorem run_submit_eq (node : Node δ ρ) (id : ChannelId) (values : Part) :
    node.run (.submit id values) =
      node.settle (Node.react occasionCount) (node.station.submit id values) :=
  rfl

theorem react_absent {node : Node δ ρ} {occasion : Occasion}
    (absent : node.callback? occasion = none) (depth : Nat) (channel : Channel) :
    Node.react depth occasion channel node = node := by
  cases depth <;> simp [Node.react, absent]

/-- A callback without an operation is called and does no more. -/
theorem react_recorded {node : Node δ ρ} {occasion : Occasion} {callback : Callback ρ}
    (installed : node.callback? occasion = some callback) (idle : callback.pending = none)
    (depth : Nat) (channel : Channel) :
    Node.react depth occasion channel node =
      node.record (node.callOf occasion callback channel) := by
  cases depth <;> simp [Node.react, installed, idle]

theorem react_asking {node : Node δ ρ} {occasion : Occasion} {callback : Callback ρ}
    {operation : Operation ρ} (installed : node.callback? occasion = some callback)
    (waits : callback.pending = some operation) (depth : Nat) (channel : Channel) :
    Node.react (depth + 1) occasion channel node =
      let asked := perform (Node.react depth) operation (node.calling occasion callback channel)
      asked.2.noteAnswer node.log.length asked.1 := by
  simp [Node.react, installed, waits, calling]

/-- A relation holds between a node and what reactions make of it if it does when nothing is
called, when a call is entered, and when the operation of a callback is asked with reactions
of which it holds already. -/
theorem react_induction {motive : Node δ ρ → Node δ ρ → Prop}
    (uncalled : ∀ node, motive node node)
    (recorded : ∀ node call, motive node (node.record call))
    (asking : ∀ react : Reaction δ ρ,
      (∀ occasion channel node, motive node (react occasion channel node)) →
      ∀ node occasion callback operation channel, node.callback? occasion = some callback →
        callback.pending = some operation →
        let asked := perform react operation (node.calling occasion callback channel)
        motive node (asked.2.noteAnswer node.log.length asked.1))
    (depth : Nat) (occasion : Occasion) (channel : Channel) (node : Node δ ρ) :
    motive node (Node.react depth occasion channel node) := by
  induction depth generalizing occasion channel node with
  | zero =>
      unfold Node.react
      split
      · exact uncalled node
      · exact recorded node _
  | succ depth ih =>
      cases installed : node.callback? occasion with
      | none =>
          rw [react_absent installed]
          exact uncalled node
      | some callback =>
          cases waits : callback.pending with
          | none =>
              rw [react_recorded installed waits]
              exact recorded node _
          | some operation =>
              rw [react_asking installed waits]
              exact asking (Node.react depth) ih node occasion callback operation channel
                installed waits

end Telemetry.Node
