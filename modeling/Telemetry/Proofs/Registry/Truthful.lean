/-
What holds of the sending end of a link at any time. A channel keeps its number
and its schema from the moment it is opened. What has been handed to the device is
an advertisement of such a schema, or the values of a tree that was recorded when
they were sent.

Three changes leave this true: storing another tree of the same schema in a
channel, handing over a packet that was written from a channel, and recording the
values of one. Whatever a sender does is made of these and of opening channels.
-/

import Telemetry.Proofs.Packet.Contents
import Telemetry.Proofs.Registry.Handing

namespace Telemetry

namespace Registry

def schema? (registry : Registry) (id : ChannelId) : Option Part :=
  (registry.opened? id).map fun channel => channel.tree.blank

/-- The tree an opened channel holds now, under its number. -/
def snapshot (registry : Registry) (id : ChannelId) : List (ChannelId × Part) :=
  (registry.opened? id).toList.map fun channel => (id, channel.tree)

theorem schema?_of_opened? {registry : Registry} {id : ChannelId} {channel : Channel}
    (opened : registry.opened? id = some channel) :
    registry.schema? id = some channel.tree.blank := by
  unfold schema?
  rw [opened]
  rfl

theorem opened?_of_schema? {registry : Registry} {id : ChannelId} {schema : Part}
    (known : registry.schema? id = some schema) :
    ∃ channel, registry.opened? id = some channel ∧ channel.tree.blank = schema :=
  Option.map_eq_some_iff.mp known

theorem isAcked_iff {registry : Registry} {id : ChannelId} :
    registry.isAcked id = true ↔
      ∃ channel, registry.opened? id = some channel ∧ channel.acked = true := by
  unfold isAcked
  cases registry.opened? id with
  | none => simp
  | some channel => simp

theorem snapshot_of_opened? {registry : Registry} {id : ChannelId} {channel : Channel}
    (opened : registry.opened? id = some channel) :
    registry.snapshot id = [(id, channel.tree)] := by
  unfold snapshot
  rw [opened]
  rfl

theorem opened?_setOpened {registry : Registry} {id : ChannelId} {channel : Channel}
    (opened : registry.opened? id = some channel) (replacement : Channel) (wanted : ChannelId) :
    (registry.setOpened id replacement).opened? wanted =
      if wanted = id then some replacement else registry.opened? wanted := by
  unfold opened? setOpened
  rw [List.getElem?_set]
  by_cases same : wanted = id
  · have inside := (List.getElem?_eq_some_iff.mp opened).1
    rw [if_pos same, same, if_pos rfl, if_pos inside]
  · have apart : id.toNat ≠ wanted.toNat := fun equal => same (UInt8.toNat_inj.mp equal.symm)
    rw [if_neg same, if_neg apart]

theorem forall_opened?_setOpened {registry : Registry} {holds : ChannelId → Channel → Prop}
    {id : ChannelId} {channel replacement : Channel} (opened : registry.opened? id = some channel)
    (here : holds id replacement)
    (others : ∀ wanted other, registry.opened? wanted = some other → holds wanted other)
    (wanted : ChannelId) (other : Channel)
    (found : (registry.setOpened id replacement).opened? wanted = some other) :
    holds wanted other := by
  rw [opened?_setOpened opened] at found
  by_cases same : wanted = id
  · rw [if_pos same, Option.some.injEq] at found
    rw [same, ← found]
    exact here
  · rw [if_neg same] at found
    exact others wanted other found

theorem schema?_setOpened {registry : Registry} {id : ChannelId} {channel replacement : Channel}
    (opened : registry.opened? id = some channel)
    (sameSchema : replacement.tree.blank = channel.tree.blank) (wanted : ChannelId) :
    (registry.setOpened id replacement).schema? wanted = registry.schema? wanted := by
  unfold schema?
  rw [opened?_setOpened opened]
  by_cases same : wanted = id
  · rw [if_pos same, same, opened, Option.map_some, Option.map_some, sameSchema]
  · rw [if_neg same]

theorem next_toNat {registry : Registry} (room : registry.opened.length < maxChannels) :
    (UInt8.ofNat registry.opened.length).toNat = registry.opened.length :=
  UInt8.toNat_ofNat_of_lt room

private theorem opened?_next {registry : Registry} (room : registry.opened.length < maxChannels) :
    registry.opened? (UInt8.ofNat registry.opened.length) = none := by
  unfold opened?
  rw [next_toNat room]
  exact List.getElem?_eq_none (Nat.le_refl registry.opened.length)

theorem opened?_append (registry : Registry) (channel : Channel)
    (room : registry.opened.length < maxChannels) (wanted : ChannelId) :
    ({ registry with opened := registry.opened ++ [channel] } : Registry).opened? wanted =
      if wanted = UInt8.ofNat registry.opened.length then some channel
      else registry.opened? wanted := by
  have place := next_toNat room
  unfold opened?
  by_cases same : wanted = UInt8.ofNat registry.opened.length
  · rw [if_pos same, same, place, List.getElem?_concat_length]
  · have apart : wanted.toNat ≠ registry.opened.length :=
      fun equal => same (UInt8.toNat_inj.mp (equal.trans place.symm))
    rw [if_neg same, List.getElem?_append]
    split
    · rfl
    · next notInside =>
        have beyond : [channel].length ≤ wanted.toNat - registry.opened.length := by
          rw [List.length_singleton]
          omega
        rw [List.getElem?_eq_none beyond, List.getElem?_eq_none (Nat.not_lt.mp notInside)]

theorem forall_opened?_append {registry : Registry} {holds : ChannelId → Channel → Prop}
    {channel : Channel} (room : registry.opened.length < maxChannels)
    (here : holds (UInt8.ofNat registry.opened.length) channel)
    (others : ∀ wanted other, registry.opened? wanted = some other → holds wanted other)
    (wanted : ChannelId) (other : Channel)
    (found : ({ registry with opened := registry.opened ++ [channel] } : Registry).opened? wanted =
      some other) : holds wanted other := by
  rw [opened?_append registry channel room] at found
  by_cases next : wanted = UInt8.ofNat registry.opened.length
  · rw [if_pos next, Option.some.injEq] at found
    rw [next, ← found]
    exact here
  · rw [if_neg next] at found
    exact others wanted other found

/-- Opening another channel leaves the schemas there are. -/
theorem schema?_append {registry : Registry} (channel : Channel)
    (room : registry.opened.length < maxChannels) {id : ChannelId} {schema : Part}
    (known : registry.schema? id = some schema) :
    ({ registry with opened := registry.opened ++ [channel] } : Registry).schema? id =
      some schema := by
  obtain ⟨held, found, same⟩ := opened?_of_schema? known
  have free : id ≠ UInt8.ofNat registry.opened.length := by
    intro next
    rw [next, opened?_next room] at found
    cases found
  have still := opened?_append registry channel room id
  rw [if_neg free, found] at still
  rw [schema?_of_opened? still, same]

/-- A packet that came of a channel of this registry. -/
inductive Written (registry : Registry) (encoded : List (ChannelId × Part)) (packet : Bytes) :
    Prop where
  | advertisement (id : ChannelId) (tree : Part) (schema : registry.schema? id = some tree.blank)
      (fit : tree.Advertisable) (written : Packet.broadcast id tree = .ok packet)
  | values (id : ChannelId) (tree : Part) (recorded : (id, tree) ∈ encoded)
      (written : Packet.data id tree = .ok packet)

private theorem Written.mono {registry later : Registry}
    {encoded extended : List (ChannelId × Part)}
    {packet : Bytes} (written : registry.Written encoded packet)
    (schemas : ∀ id schema, registry.schema? id = some schema → later.schema? id = some schema)
    (kept : ∀ entry ∈ encoded, entry ∈ extended) : later.Written extended packet := by
  cases written with
  | advertisement id tree schema fit written =>
      exact .advertisement id tree (schemas id tree.blank schema) fit written
  | values id tree recorded written => exact .values id tree (kept (id, tree) recorded) written

end Registry

namespace Station

variable {δ : Type}

/-- Every channel can be advertised under its own number, and what was handed over or
recorded as sent has the schema of its channel. -/
structure Truthful (encoded : List (ChannelId × Part)) (station : Station (Tapped δ)) :
    Prop where
  numbered : ∀ id channel, station.registry.opened? id = some channel → channel.id = id
  advertisable : ∀ id channel, station.registry.opened? id = some channel →
    channel.tree.Advertisable
  recorded : ∀ id tree, (id, tree) ∈ encoded → station.registry.schema? id = some tree.blank
  written : ∀ packet ∈ station.handed, station.registry.Written encoded packet

/-- A later state of the same end, with what there is to be relied on from before. -/
structure Proceeds (encoded : List (ChannelId × Part)) (before after : Station (Tapped δ)) :
    Prop where
  truthful : after.Truthful encoded
  schemas : ∀ id schema, before.registry.schema? id = some schema →
    after.registry.schema? id = some schema
  handed : ∀ packet ∈ before.handed, packet ∈ after.handed

variable {encoded : List (ChannelId × Part)} {station before middle after : Station (Tapped δ)}

theorem Truthful.stays (truthful : station.Truthful encoded) :
    Proceeds encoded station station :=
  ⟨truthful, fun _ _ known => known, fun _ member => member⟩

theorem Proceeds.trans {earlier : List (ChannelId × Part)}
    (first : Proceeds earlier before middle) (second : Proceeds encoded middle after) :
    Proceeds encoded before after where
  truthful := second.truthful
  schemas := fun id schema known => second.schemas id schema (first.schemas id schema known)
  handed := fun packet member => second.handed packet (first.handed packet member)

private theorem Truthful.proceeds_of (truthful : station.Truthful encoded)
    (stands : ∀ id channel, after.registry.opened? id = some channel →
      channel.id = id ∧ channel.tree.Advertisable)
    (schemas : ∀ id schema, station.registry.schema? id = some schema →
      after.registry.schema? id = some schema)
    (handed : after.handed = station.handed) : Proceeds encoded station after := by
  refine ⟨⟨?_, ?_, ?_, ?_⟩, schemas, ?_⟩
  · intro id channel opened
    exact (stands id channel opened).1
  · intro id channel opened
    exact (stands id channel opened).2
  · intro id tree member
    exact schemas id tree.blank (truthful.recorded id tree member)
  · intro packet member
    rw [handed] at member
    exact (truthful.written packet member).mono schemas fun entry recorded => recorded
  · intro packet member
    rw [handed]
    exact member

/-- Another channel may stand in for an opened one if it has its number and schema. -/
theorem Truthful.proceeds_setOpened {id : ChannelId} {channel : Channel}
    (truthful : station.Truthful encoded) (opened : station.registry.opened? id = some channel)
    (replacement : Channel) (sameId : replacement.id = channel.id)
    (sameSchema : replacement.tree.blank = channel.tree.blank)
    (registry : after.registry = station.registry.setOpened id replacement)
    (handed : after.handed = station.handed) : Proceeds encoded station after := by
  have monotone : ∀ wanted schema, station.registry.schema? wanted = some schema →
      after.registry.schema? wanted = some schema := by
    intro wanted schema known
    rw [registry, Registry.schema?_setOpened opened sameSchema, known]
  have stands : ∀ wanted found, after.registry.opened? wanted = some found →
      found.id = wanted ∧ found.tree.Advertisable := by
    have fit := truthful.advertisable id channel opened
    rw [registry]
    refine Registry.forall_opened?_setOpened opened ?_ ?_
    · exact ⟨sameId.trans (truthful.numbered id channel opened), fit.of_blank_eq sameSchema.symm⟩
    · intro wanted found holds
      exact ⟨truthful.numbered wanted found holds, truthful.advertisable wanted found holds⟩
  exact truthful.proceeds_of stands monotone handed

theorem Truthful.proceeds_opening {tree : Part} (truthful : station.Truthful encoded)
    (fit : tree.Advertisable) (room : station.registry.opened.length < Registry.maxChannels)
    (registry : after.registry =
      { station.registry with
        opened := station.registry.opened ++
          [Channel.new (UInt8.ofNat station.registry.opened.length) tree] })
    (handed : after.handed = station.handed) : Proceeds encoded station after := by
  have monotone : ∀ wanted schema, station.registry.schema? wanted = some schema →
      after.registry.schema? wanted = some schema := by
    intro wanted schema known
    rw [registry]
    exact Registry.schema?_append _ room known
  have stands : ∀ wanted found, after.registry.opened? wanted = some found →
      found.id = wanted ∧ found.tree.Advertisable := by
    rw [registry]
    refine Registry.forall_opened?_append room ?_ ?_
    · exact ⟨rfl, fit⟩
    · intro wanted found holds
      exact ⟨truthful.numbered wanted found holds, truthful.advertisable wanted found holds⟩
  exact truthful.proceeds_of stands monotone handed

theorem Truthful.proceeds_handing {packets : List Bytes} (truthful : station.Truthful encoded)
    (registry : after.registry = station.registry)
    (handed : after.handed = station.handed ++ packets)
    (written : ∀ packet ∈ packets, station.registry.Written encoded packet) :
    Proceeds encoded station after := by
  refine ⟨⟨?_, ?_, ?_, ?_⟩, ?_, ?_⟩
  · rw [registry]
    exact truthful.numbered
  · rw [registry]
    exact truthful.advertisable
  · rw [registry]
    exact truthful.recorded
  · intro packet member
    rw [handed] at member
    rw [registry]
    rcases List.mem_append.mp member with earlier | later
    · exact truthful.written packet earlier
    · exact written packet later
  · rw [registry]
    exact fun _ _ known => known
  · intro packet member
    rw [handed]
    exact List.mem_append_left packets member

theorem Truthful.recording (truthful : station.Truthful encoded) (id : ChannelId) :
    station.Truthful (encoded ++ station.registry.snapshot id) := by
  refine ⟨truthful.numbered, truthful.advertisable, ?_, ?_⟩
  · intro wanted tree member
    rcases List.mem_append.mp member with earlier | now
    · exact truthful.recorded wanted tree earlier
    · obtain ⟨channel, found, same⟩ := List.mem_map.mp now
      have opened := Option.mem_toList.mp found
      rw [Prod.mk.injEq] at same
      rw [← same.1, ← same.2]
      exact Registry.schema?_of_opened? opened
  · intro packet member
    exact (truthful.written packet member).mono (fun _ _ known => known)
      (fun entry recorded => List.mem_append_left _ recorded)

end Station

end Telemetry
