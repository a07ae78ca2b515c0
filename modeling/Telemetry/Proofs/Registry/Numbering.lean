/-
The numbers of the channels opened here. They run from zero without a gap, in the order
the channels were opened, whatever happened since, and there are at most 256 of them, so
that no two channels share one.
-/

import Telemetry.Proofs.Registry.Change
import Telemetry.Proofs.Registry.Receiving
import Telemetry.Proofs.Registry.Truthful

namespace Telemetry

namespace Registry

structure Numbered (registry : Registry) : Prop where
  few : registry.opened.length ≤ maxChannels
  own : ∀ id channel, registry.opened? id = some channel → channel.id = id

variable {registry before after : Registry}

private theorem Numbered.of_opened (numbered : before.Numbered)
    (same : after.opened = before.opened) : after.Numbered := by
  constructor
  · rw [same]
    exact numbered.few
  · intro id channel found
    unfold opened? at found
    rw [same] at found
    exact numbered.own id channel found

theorem Numbered.setOpened (numbered : before.Numbered) {id : ChannelId} {channel : Channel}
    (found : before.opened? id = some channel) {replacement : Channel}
    (sameId : replacement.id = channel.id) : (before.setOpened id replacement).Numbered := by
  constructor
  · have same : (before.setOpened id replacement).opened.length = before.opened.length :=
      List.length_set
    rw [same]
    exact numbered.few
  · exact forall_opened?_setOpened found (sameId.trans (numbered.own id channel found)) numbered.own

theorem Numbered.change (numbered : before.Numbered) {commits : List Commit}
    (change : before.Change commits after) : after.Numbered := by
  cases change with
  | opening tree room =>
      constructor
      · rw [List.length_append, List.length_singleton]
        exact room
      · exact forall_opened?_append room rfl numbered.own
  | rewriting id channel replacement found sameId acked => exact numbered.setOpened found sameId
  | answering id channel scratch known => exact numbered.of_opened rfl
  | learning id packet tree scratch read => exact numbered.of_opened before.startOver_opened
  | filling id packet payload stored tree opened known fills => exact numbered.of_opened rfl

theorem Numbered.changes {commits : List Commit} (changes : before.Changes commits after)
    (numbered : before.Numbered) : after.Numbered := by
  induction changes with
  | none registry => exact numbered
  | more first _ ih => exact ih (numbered.change first)

theorem numbered_nothing (acknowledges : Bool) : Numbered { acknowledges } := by
  constructor
  · exact Nat.zero_le maxChannels
  · intro id channel impossible
    cases impossible

theorem place_toNat (few : registry.opened.length ≤ maxChannels) {place : Nat}
    (inside : place < registry.opened.length) : (UInt8.ofNat place).toNat = place :=
  UInt8.toNat_ofNat_of_lt (Nat.lt_of_lt_of_le inside few)

theorem opened?_place (few : registry.opened.length ≤ maxChannels) {place : Nat}
    (inside : place < registry.opened.length) :
    registry.opened? (UInt8.ofNat place) = some registry.opened[place] := by
  unfold opened?
  rw [place_toNat few inside, List.getElem?_eq_getElem inside]

/-- Every channel stands under its own number. -/
theorem Numbered.opened?_id (numbered : registry.Numbered) {channel : Channel}
    (member : channel ∈ registry.opened) : registry.opened? channel.id = some channel := by
  obtain ⟨place, inside, same⟩ := List.getElem_of_mem member
  have found := opened?_place numbered.few inside
  rw [same] at found
  rw [numbered.own _ channel found]
  exact found

theorem Numbered.map_id (numbered : registry.Numbered) :
    registry.opened.map Channel.id = registry.openedIds := by
  apply List.ext_getElem
  · rw [openedIds, List.length_map, List.length_map, List.length_range]
  · intro place inside _
    rw [List.length_map] at inside
    simp only [openedIds, List.getElem_map, List.getElem_range]
    exact numbered.own _ _ (opened?_place numbered.few inside)

theorem openedIds_nodup (few : registry.opened.length ≤ maxChannels) :
    registry.openedIds.Nodup := by
  apply List.pairwise_map.mpr
  apply List.Pairwise.imp_of_mem _ List.nodup_range
  intro first second firstMember secondMember different same
  apply different
  rw [← place_toNat few (List.mem_range.mp firstMember),
    ← place_toNat few (List.mem_range.mp secondMember), same]

theorem mem_openedIds_iff (few : registry.opened.length ≤ maxChannels) {id : ChannelId} :
    id ∈ registry.openedIds ↔ id.toNat < registry.opened.length := by
  constructor
  · intro member
    obtain ⟨place, inside, same⟩ := List.mem_map.mp member
    rw [← same, place_toNat few (List.mem_range.mp inside)]
    exact List.mem_range.mp inside
  · intro inside
    exact List.mem_map.mpr ⟨id.toNat, List.mem_range.mpr inside, UInt8.ofNat_toNat⟩

end Registry

theorem Node.Reachable.numbered {δ ρ : Type} [Device δ] {node : Node δ ρ}
    (reachable : node.Reachable) : node.station.registry.Numbered := by
  obtain ⟨acknowledges, sources, device, steps, same⟩ := reachable
  rw [same]
  exact (Registry.numbered_nothing acknowledges).changes
    ((fresh acknowledges sources device).turns_changes steps)

end Telemetry
