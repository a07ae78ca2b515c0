/-
The channels a peer has advertised, by number. There is at most one under each
number, and they are listed in increasing order of it.
-/

import Telemetry.Channel

namespace Telemetry

structure ChannelTable where
  entries : List (ChannelId × Channel)
  ordered : entries.Pairwise fun left right => left.1 < right.1

namespace ChannelTable

def empty : ChannelTable := ⟨[], List.Pairwise.nil⟩

def get? (table : ChannelTable) (id : ChannelId) : Option Channel := table.entries.lookup id

def ids (table : ChannelTable) : List ChannelId := table.entries.map Prod.fst

def channels (table : ChannelTable) : List Channel := table.entries.map Prod.snd

/-- Puts a channel where its number belongs, in place of one that is there. -/
def place (id : ChannelId) (channel : Channel) :
    List (ChannelId × Channel) → List (ChannelId × Channel)
  | [] => [(id, channel)]
  | entry :: rest =>
      if id < entry.1 then (id, channel) :: entry :: rest
      else if id = entry.1 then (id, channel) :: rest
      else entry :: place id channel rest

private theorem place_subset {id : ChannelId} {channel : Channel}
    {entries : List (ChannelId × Channel)} {entry : ChannelId × Channel}
    (member : entry ∈ place id channel entries) :
    entry = (id, channel) ∨ entry ∈ entries := by
  induction entries with
  | nil =>
      left
      simpa only [place, List.mem_singleton] using member
  | cons first rest ih =>
      rw [place] at member
      split at member
      · rcases List.mem_cons.mp member with same | old
        · exact Or.inl same
        · exact Or.inr old
      · split at member
        · rcases List.mem_cons.mp member with same | old
          · exact Or.inl same
          · exact Or.inr (List.mem_cons_of_mem _ old)
        · rcases List.mem_cons.mp member with same | later
          · exact Or.inr (same ▸ List.mem_cons_self)
          · rcases ih later with same | old
            · exact Or.inl same
            · exact Or.inr (List.mem_cons_of_mem _ old)

private theorem place_ordered (id : ChannelId) (channel : Channel)
    {entries : List (ChannelId × Channel)}
    (ordered : entries.Pairwise fun left right => left.1 < right.1) :
    (place id channel entries).Pairwise fun left right => left.1 < right.1 := by
  induction entries with
  | nil => exact List.pairwise_singleton _ _
  | cons first rest ih =>
      obtain ⟨above, later⟩ := List.pairwise_cons.mp ordered
      rw [place]
      split
      · next below =>
          refine List.pairwise_cons.mpr ⟨?_, ordered⟩
          intro entry member
          rcases List.mem_cons.mp member with same | old
          · exact same ▸ below
          · exact UInt8.lt_trans below (above entry old)
      · next notBelow =>
          split
          · next same =>
              refine List.pairwise_cons.mpr ⟨?_, later⟩
              intro entry member
              exact same ▸ above entry member
          · next different =>
              refine List.pairwise_cons.mpr ⟨?_, ih later⟩
              intro entry member
              rcases place_subset member with same | old
              · subst same
                exact UInt8.lt_of_le_of_ne (UInt8.not_lt.mp notBelow)
                  (fun equal => different equal.symm)
              · exact above entry old

def insert (table : ChannelTable) (id : ChannelId) (channel : Channel) : ChannelTable :=
  ⟨place id channel table.entries, place_ordered id channel table.ordered⟩

@[simp] theorem get?_empty (id : ChannelId) : empty.get? id = none := rfl

private theorem lookup_entry (wanted : ChannelId) (entry : ChannelId × Channel)
    (rest : List (ChannelId × Channel)) :
    (entry :: rest).lookup wanted =
      if wanted = entry.1 then some entry.2 else rest.lookup wanted := by
  obtain ⟨id, channel⟩ := entry
  by_cases same : wanted = id
  · simp [same]
  · simp [List.lookup_cons, same, beq_eq_false_iff_ne.mpr same]

private theorem lookup_place (wanted id : ChannelId) (channel : Channel)
    (entries : List (ChannelId × Channel)) :
    (place id channel entries).lookup wanted =
      if wanted = id then some channel else entries.lookup wanted := by
  induction entries with
  | nil => exact lookup_entry wanted (id, channel) []
  | cons first rest ih =>
      rw [place]
      split
      · exact lookup_entry wanted (id, channel) (first :: rest)
      · split
        · next same =>
            rw [lookup_entry, lookup_entry, ← same]
            by_cases wantsThis : wanted = id
            · rw [if_pos wantsThis, if_pos wantsThis]
            · rw [if_neg wantsThis, if_neg wantsThis, if_neg wantsThis]
        · next different =>
            rw [lookup_entry, lookup_entry, ih]
            by_cases wantsFirst : wanted = first.1
            · have notThis : wanted ≠ id := fun same => different (same ▸ wantsFirst)
              rw [if_pos wantsFirst, if_neg notThis, if_pos wantsFirst]
            · rw [if_neg wantsFirst, if_neg wantsFirst]

@[simp] theorem get?_insert (table : ChannelTable) (id wanted : ChannelId) (channel : Channel) :
    (table.insert id channel).get? wanted =
      if wanted = id then some channel else table.get? wanted :=
  lookup_place wanted id channel table.entries

/-- What holds of the channels of a table and of the one that is stored in it still holds of
all of them. -/
theorem forall_get?_insert {table : ChannelTable} {holds : ChannelId → Channel → Prop}
    {id : ChannelId} {channel : Channel} (here : holds id channel)
    (others : ∀ wanted other, table.get? wanted = some other → holds wanted other)
    (wanted : ChannelId) (other : Channel)
    (stored : (table.insert id channel).get? wanted = some other) : holds wanted other := by
  rw [get?_insert] at stored
  by_cases same : wanted = id
  · rw [if_pos same, Option.some.injEq] at stored
    rw [same, ← stored]
    exact here
  · rw [if_neg same] at stored
    exact others wanted other stored

end ChannelTable

end Telemetry
