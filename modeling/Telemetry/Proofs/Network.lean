/-
Two ends and the network between them. Everything the sender has handed to its
device lies in a pool that the network delivers from, any packet, as often as it
likes, in any order or never; the acknowledgements the receiver hands over lie in
another. Packets are not changed and come from nowhere else.

An edit of a channel is two steps, taking a copy and storing what became of it,
with any other steps in between, for the program may do anything while it edits.
Sources and devices may change at any time.
-/

import Telemetry.Proofs.Registry.Sending
import Telemetry.Proofs.Registry.Quiet

namespace Telemetry

structure Network (δ ε ρ : Type) where
  sender : Node (Tapped δ) ρ
  receiver : Node (Tapped ε) ρ
  /-- The copies of channels that are being edited, as they were taken. -/
  taken : List (ChannelId × Part) := []
  /-- The trees whose values were written, the oldest first. -/
  encoded : List (ChannelId × Part) := []

namespace Network

variable {δ ε ρ : Type}

/-- The same station in other surroundings. -/
def amid (station : Station (Tapped δ)) (sources : Sources) (device : δ) : Station (Tapped δ) :=
  { station with sources, device := { station.device with device } }

def placed (network : Network δ ε ρ) (station : Station (Tapped δ)) : Network δ ε ρ :=
  { network with sender := network.sender.withStation station }

variable [Device δ] [Device ε]

def ask (network : Network δ ε ρ) (operation : Operation ρ) : Network δ ε ρ :=
  { network with sender := (network.sender.run operation).2 }

def deliver (network : Network δ ε ρ) (packet : Bytes) : Network δ ε ρ :=
  { network with receiver := (network.receiver.run (.receive packet)).2 }

def recording (network : Network δ ε ρ) (id : ChannelId) : Network δ ε ρ :=
  { network with
    encoded := network.encoded ++ network.sender.station.registry.snapshot id }

inductive Step (network : Network δ ε ρ) : Network δ ε ρ → Prop where
  | openChannels (trees : List Part) (fit : ∀ tree ∈ trees, tree.Advertisable) :
      Step network (network.ask (.openChannels trees))
  | broadcast (id : ChannelId) : Step network (network.ask (.broadcast id))
  | broadcastAll : Step network (network.ask .broadcastAll)
  | broadcastUnacked : Step network (network.ask .broadcastUnacked)
  | sendData (id : ChannelId) : Step network ((network.ask (.sendData id)).recording id)
  | beginEdit (id : ChannelId) :
      Step network
        { network with taken := network.taken ++ network.sender.station.registry.snapshot id }
  | endEdit (id : ChannelId) (before after : Part) (copied : (id, before) ∈ network.taken)
      (kept : after.sameSchema before = true) :
      Step network (network.placed (network.sender.station.storeTree id after))
  | drift (sources : Sources) (device : δ) :
      Step network (network.placed (amid network.sender.station sources device))
  | receiverDrift (sources : Sources) (device : ε) :
      Step network
        { network with
          receiver := network.receiver.withStation (amid network.receiver.station sources device) }
  | deliver (packet : Bytes) (pooled : packet ∈ network.sender.station.handed) :
      Step network (network.deliver packet)
  | acknowledge (id : ChannelId) :
      Step network { network with receiver := (network.receiver.run (.acknowledge id)).2 }
  | answer (packet : Bytes) (pooled : packet ∈ network.receiver.station.handed) :
      Step network (network.ask (.receive packet))

/-- Nothing has happened at this station. -/
def Fresh (station : Station (Tapped δ)) : Prop :=
  ∃ acknowledges sources device, station = .start acknowledges sources { device }

inductive Reachable : Network δ ε ρ → Prop where
  | start (sender : Node (Tapped δ) ρ) (receiver : Node (Tapped ε) ρ)
      (freshSender : Fresh sender.station) (freshReceiver : Fresh receiver.station)
      (quiet : receiver.Quiet) : Reachable { sender, receiver }
  | step {before after : Network δ ε ρ} (earlier : Reachable before) (step : Step before after) :
      Reachable after

theorem Reachable.deliverAll {network : Network δ ε ρ} {packets : List Bytes}
    (reachable : network.Reachable)
    (pooled : ∀ packet ∈ packets, packet ∈ network.sender.station.handed) :
    (packets.foldl deliver network).Reachable := by
  induction packets generalizing network with
  | nil => exact reachable
  | cons packet rest ih =>
      obtain ⟨here, later⟩ := List.forall_mem_cons.mp pooled
      exact ih (reachable.step (.deliver packet here)) later

end Network

end Telemetry
