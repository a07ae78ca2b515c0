/-
A station with its callbacks. Whenever a channel has been learned or filled, the
callback installed for it is called with a copy of the channel, after the
registry has changed. A callback writes an entry into the log of the node. It
may also hold one operation, which it asks of the registry the first time it is
called.

An operation inside a callback can lead to another call. Callbacks are not
installed by operations, and an operation that has run is gone, so calls lie in
each other no deeper than there are callbacks.
-/

import Telemetry.Registry.Operation
import Telemetry.Registry.Send

namespace Telemetry

inductive Occasion where
  | broadcast
  | data
  deriving DecidableEq, Repr

def Occasion.name : Occasion → String
  | .broadcast => "broadcast"
  | .data => "data"

def Event.occasion? : Event → Option Occasion
  | .schemaLearned _ => some .broadcast
  | .dataReceived _ => some .data
  | .acknowledged _ => none
  | .ignored => none

structure Callback (ρ : Type) where
  label : Option String
  /-- What is left for the next call to do. -/
  pending : Option (Operation ρ)

structure Call (ρ : Type) where
  occasion : Occasion
  label : Option String
  channel : Channel
  dataMode : Bool
  /-- What the operation came back with, if this call had one. -/
  answer : Option (Answer ρ) := none

structure Node (δ ρ : Type) where
  station : Station δ
  onBroadcast : Option (Callback ρ) := none
  onData : Option (Callback ρ) := none
  /-- The calls of callbacks, the oldest first. -/
  log : List (Call ρ) := []

namespace Node

variable {δ ρ : Type}

def callback? (node : Node δ ρ) : Occasion → Option (Callback ρ)
  | .broadcast => node.onBroadcast
  | .data => node.onData

def install (node : Node δ ρ) (occasion : Occasion) (callback : Callback ρ) : Node δ ρ :=
  match occasion with
  | .broadcast => { node with onBroadcast := some callback }
  | .data => { node with onData := some callback }

@[simp]
theorem callback?_install (node : Node δ ρ) (occasion wanted : Occasion) (callback : Callback ρ) :
    (node.install occasion callback).callback? wanted =
      if wanted = occasion then some callback else node.callback? wanted := by
  cases occasion <;> cases wanted <;> rfl

@[simp]
theorem install_station (node : Node δ ρ) (occasion : Occasion) (callback : Callback ρ) :
    (node.install occasion callback).station = node.station := by
  cases occasion <;> rfl

@[simp]
theorem install_log (node : Node δ ρ) (occasion : Occasion) (callback : Callback ρ) :
    (node.install occasion callback).log = node.log := by
  cases occasion <;> rfl

def withStation (node : Node δ ρ) (station : Station δ) : Node δ ρ := { node with station }

@[simp]
theorem callback?_withStation (node : Node δ ρ) (station : Station δ) (occasion : Occasion) :
    (node.withStation station).callback? occasion = node.callback? occasion := by
  cases occasion <;> rfl

def record (node : Node δ ρ) (call : Call ρ) : Node δ ρ :=
  { node with log := node.log ++ [call] }

@[simp]
theorem record_station (node : Node δ ρ) (call : Call ρ) :
    (node.record call).station = node.station :=
  rfl

@[simp]
theorem callback?_record (node : Node δ ρ) (call : Call ρ) (occasion : Occasion) :
    (node.record call).callback? occasion = node.callback? occasion := by
  cases occasion <;> rfl

abbrev Reaction (δ ρ : Type) := Occasion → Channel → Node δ ρ → Node δ ρ

/-- Lets the node react to what was received, and answers with the event. -/
def settle (react : Reaction δ ρ) (node : Node δ ρ)
    (result : Except RegistryError Reception × Station δ) : Answer ρ × Node δ ρ :=
  let after := node.withStation result.2
  match result.1 with
  | .error error => (.failed error, after)
  | .ok reception =>
      match reception.event.occasion?, reception.snapshot with
      | some occasion, some channel => (.event reception.event, react occasion channel after)
      | _, _ => (.event reception.event, after)

def finish {α : Type} (view : α → Answer ρ) (node : Node δ ρ)
    (result : Except RegistryError α × Station δ) : Answer ρ × Node δ ρ :=
  (.ofResult view result.1, node.withStation result.2)

def openChannels (node : Node δ ρ) : List Part → Answer ρ × Node δ ρ
  | [] => (.nothing, node)
  | [tree] => node.finish .id (node.station.openChannel tree)
  | tree :: next :: rest =>
      (node.withStation (node.station.openChannel tree).2).openChannels (next :: rest)

mutual

def perform [Device δ] (react : Reaction δ ρ) :
    Operation ρ → Node δ ρ → Answer ρ × Node δ ρ
  | .openChannels trees, node => node.openChannels trees
  | .broadcast id, node => node.finish (fun _ => .nothing) (node.station.broadcastChannel id)
  | .broadcastAll, node => node.finish (fun _ => .nothing) node.station.broadcastAll
  | .broadcastUnacked, node => node.finish .count node.station.broadcastUnacked
  | .sendData id, node => node.finish (fun _ => .nothing) (node.station.sendData id)
  | .acknowledge id, node => node.finish (fun _ => .nothing) (node.station.acknowledge id)
  | .sendRemoteData id, node => node.finish (fun _ => .nothing) (node.station.sendRemoteData id)
  | .submit id values, node => node.settle react (node.station.submit id values)
  | .receive packet, node => node.settle react (node.station.receive packet)
  | .remoteChannel id, node => (.ofChannel? (node.station.registry.remote.get? id), node)
  | .remoteChannels, node => (.channels node.station.registry.remote.channels, node)
  | .openedChannel id, node => (.ofChannel? (node.station.registry.opened? id), node)
  | .isAcked id, node => (.flag (node.station.registry.isAcked id), node)
  | .acknowledges, node => (.flag node.station.registry.acknowledges, node)
  | .outline, node => (.outline node.station.registry.outline, node)
  | .edit id edits, node =>
      match node.station.registry.opened? id with
      | none => (.absent, node)
      | some channel =>
          let (answers, copy, after) := performEdits react edits channel node
          (.edited answers, after.withStation (after.station.storeTree id copy.tree))

def performEdits [Device δ] (react : Reaction δ ρ) :
    List (Edit ρ) → Channel → Node δ ρ → List (Answer ρ) × Channel × Node δ ρ
  | [], copy, node => ([], copy, node)
  | edit :: rest, copy, node =>
      let (answer, changed, after) := performEdit react edit copy node
      let (answers, final, last) := performEdits react rest changed after
      (answer :: answers, final, last)

def performEdit [Device δ] (react : Reaction δ ρ) :
    Edit ρ → Channel → Node δ ρ → Answer ρ × Channel × Node δ ρ
  | .amend act, copy, node =>
      let (report, changed, sources) := act copy node.station.sources
      (.report report, changed, node.withStation { node.station with sources })
  | .ask operation, copy, node =>
      let (answer, after) := perform react operation node
      (answer, copy, after)

end

def callOf (node : Node δ ρ) (occasion : Occasion) (callback : Callback ρ) (channel : Channel) :
    Call ρ :=
  { occasion, label := callback.label, channel, dataMode := node.station.registry.dataMode }

def noteAnswer (node : Node δ ρ) (entry : Nat) (answer : Answer ρ) : Node δ ρ :=
  { node with log := node.log.modify entry fun call => { call with answer := some answer } }

/-- Calls the callback that is due, with calls lying at most `depth` deep inside it. -/
def react [Device δ] : Nat → Reaction δ ρ
  | 0, occasion, channel, node =>
      match node.callback? occasion with
      | none => node
      | some callback => node.record (node.callOf occasion callback channel)
  | depth + 1, occasion, channel, node =>
      match node.callback? occasion with
      | none => node
      | some callback =>
          let entry := node.log.length
          let called := node.record (node.callOf occasion callback channel)
          match callback.pending with
          | none => called
          | some operation =>
              let spent := called.install occasion { callback with pending := none }
              let (answer, after) := perform (react depth) operation spent
              after.noteAnswer entry answer

/-- How many callbacks can wait with an operation at once. -/
def occasionCount : Nat := 2

/-- Asks an operation of the registry, callbacks included. -/
def run [Device δ] (node : Node δ ρ) (operation : Operation ρ) : Answer ρ × Node δ ρ :=
  perform (react occasionCount) operation node

def runAll [Device δ] (node : Node δ ρ) : List (Operation ρ) → List (Answer ρ) × Node δ ρ
  | [] => ([], node)
  | operation :: rest =>
      let (answer, after) := node.run operation
      let (answers, last) := after.runAll rest
      (answer :: answers, last)

end Node

end Telemetry
