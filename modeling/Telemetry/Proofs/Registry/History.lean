/-
The history of a registry: what it learned of the channels of its peer and what it was
sent for them, with the packet that brought it, in the order the registry changed.
That is not the order of the answers. A callback is called when the registry has
changed and the answer is not yet given, so what the callback goes on to ask comes
between the two.

A run is a list of turns. In a turn the program asks something of the registry or
installs a callback, or the surroundings change: what the sources will answer and what
the device will do.
-/

import Telemetry.Registry.Node

namespace Telemetry

inductive Commit where
  | learned (id : ChannelId) (packet : Bytes)
  | filled (id : ChannelId) (packet : Bytes)
  deriving DecidableEq, Repr

def Event.commit? (packet : Bytes) : Event → Option Commit
  | .schemaLearned id => some (.learned id packet)
  | .dataReceived id => some (.filled id packet)
  | .acknowledged _ => none
  | .ignored => none

namespace Node

variable {δ ρ : Type}

/-- What is committed while a node reacts. -/
abbrev Aftermath (δ ρ : Type) := Occasion → Channel → Node δ ρ → List Commit

/-- What an input commits, and what follows from it. -/
def settleCommits (later : Aftermath δ ρ) (node : Node δ ρ) (packet : Bytes)
    (result : Except RegistryError Reception × Station δ) : List Commit :=
  match result.1 with
  | .error _ => []
  | .ok reception =>
      (reception.event.commit? packet).toList ++
        match reception.event.occasion?, reception.snapshot with
        | some occasion, some channel => later occasion channel (node.withStation result.2)
        | _, _ => []

/-- The packet that submitted values are read from. -/
def submittedPacket (id : ChannelId) (values : Part) : Bytes :=
  (Packet.data id values).toOption.getD []

mutual

def commits [Device δ] (react : Reaction δ ρ) (later : Aftermath δ ρ) :
    Operation ρ → Node δ ρ → List Commit
  | .submit id values, node =>
      node.settleCommits later (submittedPacket id values) (node.station.submit id values)
  | .receive packet, node => node.settleCommits later packet (node.station.receive packet)
  | .edit id edits, node =>
      match node.station.registry.opened? id with
      | none => []
      | some channel => editsCommits react later edits channel node
  | .openChannels _, _ | .broadcast _, _ | .broadcastAll, _ | .broadcastUnacked, _ => []
  | .sendData _, _ | .acknowledge _, _ | .sendRemoteData _, _ => []
  | .remoteChannel _, _ | .remoteChannels, _ | .openedChannel _, _ | .isAcked _, _ => []
  | .acknowledges, _ | .outline, _ => []

def editsCommits [Device δ] (react : Reaction δ ρ) (later : Aftermath δ ρ) :
    List (Edit ρ) → Channel → Node δ ρ → List Commit
  | [], _, _ => []
  | edit :: rest, copy, node =>
      let (_, changed, after) := performEdit react edit copy node
      editCommits react later edit node ++ editsCommits react later rest changed after

def editCommits [Device δ] (react : Reaction δ ρ) (later : Aftermath δ ρ) :
    Edit ρ → Node δ ρ → List Commit
  | .amend _, _ => []
  | .ask operation, node => commits react later operation node

end

/-- What the callback that is due commits, with calls as deep as `react` allows them. -/
def reactCommits [Device δ] : Nat → Aftermath δ ρ
  | 0, _, _, _ => []
  | depth + 1, occasion, channel, node =>
      match node.callback? occasion with
      | none => []
      | some callback =>
          match callback.pending with
          | none => []
          | some operation =>
              let called := node.record (node.callOf occasion callback channel)
              let spent := called.install occasion { callback with pending := none }
              commits (react depth) (reactCommits depth) operation spent

inductive Turn (δ ρ : Type) where
  | ask (operation : Operation ρ)
  | install (occasion : Occasion) (callback : Callback ρ)
  | drift (sources : Sources) (device : δ)

def turn [Device δ] (node : Node δ ρ) : Turn δ ρ → Node δ ρ
  | .ask operation => (node.run operation).2
  | .install occasion callback => node.install occasion callback
  | .drift sources device => node.withStation { node.station with sources, device }

def turnCommits [Device δ] (node : Node δ ρ) : Turn δ ρ → List Commit
  | .ask operation => commits (react occasionCount) (reactCommits occasionCount) operation node
  | .install _ _ => []
  | .drift _ _ => []

def turns [Device δ] (node : Node δ ρ) : List (Turn δ ρ) → Node δ ρ
  | [] => node
  | first :: rest => (node.turn first).turns rest

def history [Device δ] (node : Node δ ρ) : List (Turn δ ρ) → List Commit
  | [] => []
  | first :: rest => node.turnCommits first ++ (node.turn first).history rest

/-- A node at which nothing has happened. -/
def fresh (acknowledges : Bool) (sources : Sources) (device : δ) : Node δ ρ :=
  { station := .start acknowledges sources device }

def Reachable [Device δ] (node : Node δ ρ) : Prop :=
  ∃ acknowledges sources device turns, node = (fresh acknowledges sources device).turns turns

variable [Device δ]

theorem turns_concat (node : Node δ ρ) (steps : List (Turn δ ρ)) (last : Turn δ ρ) :
    node.turns (steps ++ [last]) = (node.turns steps).turn last := by
  induction steps generalizing node with
  | nil => rfl
  | cons first rest ih => exact ih (node.turn first)

theorem Reachable.turn {node : Node δ ρ} (reachable : node.Reachable) (step : Turn δ ρ) :
    (node.turn step).Reachable := by
  obtain ⟨acknowledges, sources, device, steps, same⟩ := reachable
  refine ⟨acknowledges, sources, device, steps ++ [step], ?_⟩
  rw [turns_concat, same]

theorem Reachable.run {node : Node δ ρ} (reachable : node.Reachable) (operation : Operation ρ) :
    (node.run operation).2.Reachable :=
  reachable.turn (.ask operation)

theorem Reachable.runAll {node : Node δ ρ} (reachable : node.Reachable)
    (operations : List (Operation ρ)) : (node.runAll operations).2.Reachable := by
  induction operations generalizing node with
  | nil => exact reachable
  | cons first rest ih => exact ih (reachable.run first)

end Node

end Telemetry
