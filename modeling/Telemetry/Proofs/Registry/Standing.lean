/-
What stays of a channel whatever it holds: its number, its schema and whether it is
acknowledged. A channel keeps these when it is refreshed, and a registry keeps them of all
its channels when a refreshed channel is stored. Number and schema are what an advertisement
tells.
-/

import Telemetry.Proofs.Registry.Truthful

namespace Telemetry

namespace Channel

/-- The packet that advertises a channel. -/
def advertisement (channel : Channel) : Bytes :=
  Packet.sealed (Packet.preamble .broadcast .send channel.id ++ channel.tree.schemaBytes)

/-- What a channel is to the peer, whatever it holds. -/
def standing (channel : Channel) : ChannelId × Part × Bool :=
  (channel.id, channel.tree.blank, channel.acked)

@[simp]
theorem fetch_standing (channel : Channel) (sources : Sources) :
    (channel.fetch sources).1.standing = channel.standing := by
  unfold standing fetch
  simp

end Channel

namespace Registry

def standings (registry : Registry) : List (ChannelId × Part × Bool) :=
  registry.opened.map Channel.standing

/-- What another entry has in common with the one it replaces, the list still has. -/
theorem map_set_same {α β : Type} {view : α → β} {items : List α} {place : Nat} {old new : α}
    (found : items[place]? = some old) (same : view new = view old) :
    (items.set place new).map view = items.map view := by
  obtain ⟨inside, here⟩ := List.getElem?_eq_some_iff.mp found
  rw [List.map_set, same, ← here, ← List.getElem_map view, List.set_getElem_self]
  rwa [List.length_map]

theorem standings_setOpened {registry : Registry} {id : ChannelId} {channel replacement : Channel}
    (found : registry.opened? id = some channel) (same : replacement.standing = channel.standing) :
    (registry.setOpened id replacement).standings = registry.standings :=
  map_set_same found same

theorem length_of_standings {before after : Registry} (same : after.standings = before.standings) :
    after.opened.length = before.opened.length := by
  have lengths := congrArg List.length same
  unfold standings at lengths
  rw [List.length_map, List.length_map] at lengths
  exact lengths

end Registry

end Telemetry
