/-
Everything a program can ask of a registry, as data. Operations can be kept for
later, as a callback keeps what it will do, and can hold operations themselves:
editing a channel runs a list of edits on a copy of it, each of which either
amends the copy or asks something of the registry in between.

`ρ` is what an amendment reports.
-/

import Telemetry.Registry.Receive

namespace Telemetry

mutual

inductive Operation (ρ : Type) where
  /-- Opens a channel for each tree and answers for the last. -/
  | openChannels (trees : List Part)
  | broadcast (id : ChannelId)
  | broadcastAll
  | broadcastUnacked
  | sendData (id : ChannelId)
  | acknowledge (id : ChannelId)
  | sendRemoteData (id : ChannelId)
  | submit (id : ChannelId) (values : Part)
  | receive (packet : Bytes)
  | remoteChannel (id : ChannelId)
  | remoteChannels
  | openedChannel (id : ChannelId)
  | isAcked (id : ChannelId)
  | acknowledges
  | outline
  | edit (id : ChannelId) (edits : List (Edit ρ))

inductive Edit (ρ : Type) where
  | amend (act : Channel → Sources → ρ × Channel × Sources)
  | ask (operation : Operation ρ)

end

inductive Answer (ρ : Type) where
  | nothing
  | id (id : ChannelId)
  | count (count : Nat)
  | flag (value : Bool)
  | event (event : Event)
  | channel (channel : Channel)
  | channels (channels : List Channel)
  | outline (outline : Outline)
  | report (report : ρ)
  | edited (answers : List (Answer ρ))
  /-- There is no such channel to look at or to edit. -/
  | absent
  | failed (error : RegistryError)

namespace Answer

variable {ρ : Type}

def ofResult {α : Type} (view : α → Answer ρ) : Except RegistryError α → Answer ρ
  | .ok value => view value
  | .error error => .failed error

def ofChannel? : Option Channel → Answer ρ
  | some found => .channel found
  | none => .absent

end Answer

end Telemetry
