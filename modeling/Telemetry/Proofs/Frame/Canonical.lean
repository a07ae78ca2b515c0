/-
Which bytes are the body of a frame. They are tiled by groups, each a code and as many
bytes behind it as the code tells; there is no zero among them; and at their end no empty
group stands behind a full one. A single empty group is the body of the empty packet,
which has no frame.

These are all the bodies there are, and there is one packet for each: a reader that meets
such a body rebuilds the packet it was written from. Other bodies are read as well, as
those with an empty group behind a full last one, but none of them is written.
-/

import Mathlib.Data.Set.Function
import Telemetry.Proofs.Frame.Stuffing

namespace Telemetry.Frame

/-- A code with the bytes it announces. -/
def IsGroup (bytes : Bytes) : Prop :=
  ∃ code rest, bytes = code :: rest ∧ code.toNat = rest.length + 1

/-- The body falls into these groups, with nothing left over. -/
structure Tiles (groups : List Bytes) (body : Bytes) : Prop where
  whole : groups.flatten = body
  each : ∀ group ∈ groups, IsGroup group

structure Canonical (body : Bytes) : Prop where
  filled : body ≠ []
  inhabited : body ≠ [1]
  clean : delimiter ∉ body
  tiled : ∃ groups, Tiles groups body
  /-- No lone code 1 stands behind a full group at the end. -/
  tight : ∀ groups full, Tiles (groups ++ [full, [1]]) body → full.head? ≠ some fullCode

private theorem isGroup_code {group : Bytes} (fits : group.length ≤ groupLimit) :
    IsGroup (code group :: group) :=
  ⟨code group, group, rfl, code_toNat fits⟩

private theorem IsGroup.eq_code {group : Bytes} (isGroup : IsGroup group) :
    ∃ rest, group = code rest :: rest ∧ rest.length ≤ groupLimit := by
  obtain ⟨first, rest, begins, size⟩ := isGroup
  have limit : groupLimit = 254 := rfl
  have small := first.toNat_lt
  have same : code rest = first := by
    rw [code, ← size, UInt8.ofNat_toNat]
  refine ⟨rest, ?_, by omega⟩
  rw [begins, same]

private theorem Tiles.cons {group body : Bytes} {groups : List Bytes}
    (fits : group.length ≤ groupLimit) (tiles : Tiles groups body) :
    Tiles ((code group :: group) :: groups) (code group :: (group ++ body)) := by
  refine ⟨?_, List.forall_mem_cons.mpr ⟨isGroup_code fits, tiles.each⟩⟩
  rw [List.flatten_cons, tiles.whole, List.cons_append]

private theorem Tiles.nothing {groups : List Bytes} (tiles : Tiles groups []) : groups = [] := by
  cases groups with
  | nil => rfl
  | cons group later =>
      obtain ⟨first, rest, begins, _⟩ := tiles.each group List.mem_cons_self
      have whole := tiles.whole
      rw [begins] at whole
      cases whole

private theorem Tiles.later {group body : Bytes} {groups : List Bytes}
    (tiles : Tiles (group :: groups) (group ++ body)) : Tiles groups body := by
  refine ⟨?_, fun other member => tiles.each other (List.mem_cons_of_mem group member)⟩
  have whole := tiles.whole
  rw [List.flatten_cons] at whole
  exact List.append_cancel_left whole

/-- The first code tells where the first group ends, so there is no other tiling. -/
private theorem Tiles.first {group body : Bytes} {groups : List Bytes}
    (fits : group.length ≤ groupLimit) (tiles : Tiles groups (code group :: (group ++ body))) :
    ∃ later, groups = (code group :: group) :: later ∧ Tiles later body := by
  cases groups with
  | nil => cases tiles.whole
  | cons own later =>
      obtain ⟨first, rest, begins, size⟩ := tiles.each own List.mem_cons_self
      have whole := tiles.whole
      rw [List.flatten_cons, begins, List.cons_append, List.cons.injEq] at whole
      have sized : rest.length = group.length := by
        rw [whole.1, code_toNat fits] at size
        omega
      have same := (List.append_inj whole.2 sized).1
      rw [begins, whole.1, same] at tiles ⊢
      exact ⟨later, rfl, tiles.later⟩

private theorem Layout.tiled {packet body : Bytes} (layout : Layout packet body) :
    ∃ groups, Tiles groups body := by
  induction layout with
  | last group clean fits =>
      refine ⟨[code group :: group], ?_, ?_⟩
      · rw [List.flatten_singleton]
      · exact List.forall_mem_singleton.mpr (isGroup_code fits)
  | full group packet body clean fills more later ih =>
      obtain ⟨groups, tiles⟩ := ih
      exact ⟨_, tiles.cons (Nat.le_of_eq fills)⟩
  | closed group packet body clean short later ih =>
      obtain ⟨groups, tiles⟩ := ih
      exact ⟨_, tiles.cons (Nat.le_of_lt short)⟩

private theorem layout_nil : Layout [] [1] := .last [] List.not_mem_nil (Nat.zero_le groupLimit)

private theorem Layout.eq_nil {packet : Bytes} (layout : Layout packet [1]) : packet = [] := by
  have fromLayout : rebuild .waiting ([1] ++ []) = packet := layout.rebuild_append fun _ => rfl
  have fromNothing : rebuild .waiting ([1] ++ []) = [] := layout_nil.rebuild_append fun _ => rfl
  rw [← fromLayout, fromNothing]

private theorem Layout.tight {packet body : Bytes} (layout : Layout packet body)
    (groups : List Bytes) (full : Bytes) (tiles : Tiles (groups ++ [full, [1]]) body) :
    full.head? ≠ some fullCode := by
  induction layout generalizing groups with
  | last group clean fits =>
      -- A tiling of one group has no place for two.
      have single : Tiles (groups ++ [full, [1]]) (code group :: (group ++ [])) := by
        rwa [List.append_nil]
      obtain ⟨later, split, rest⟩ := single.first fits
      have lengths := congrArg List.length split
      rw [rest.nothing, List.length_append] at lengths
      simp only [List.length_cons, List.length_nil] at lengths
      omega
  | full group packet body clean fills more later ih =>
      obtain ⟨others, split, rest⟩ := tiles.first (Nat.le_of_eq fills)
      cases groups with
      | nil =>
          -- What is behind the full group is not nothing, so it is not written as a lone 1.
          rw [List.nil_append, List.cons.injEq] at split
          have lone : body = [1] := by
            rw [← rest.whole, ← split.2, List.flatten_singleton]
          rw [lone] at later
          exact absurd later.eq_nil more
      | cons own groups =>
          rw [List.cons_append, List.cons.injEq] at split
          rw [← split.2] at rest
          exact ih groups rest
  | closed group packet body clean short later ih =>
      obtain ⟨others, split, rest⟩ := tiles.first (Nat.le_of_lt short)
      cases groups with
      | nil =>
          rw [List.nil_append, List.cons.injEq] at split
          rw [split.1, List.head?_cons]
          exact fun same => code_ne_full short (Option.some.inj same)
      | cons own groups =>
          rw [List.cons_append, List.cons.injEq] at split
          rw [← split.2] at rest
          exact ih groups rest

theorem canonical_body {packet : Bytes} (filled : packet ≠ []) : Canonical (body packet) := by
  have layout := layout_body packet
  obtain ⟨first, rest, begins, _⟩ := layout.begins
  refine ⟨?_, ?_, layout.clean, layout.tiled, layout.tight⟩
  · rw [begins]
    exact List.cons_ne_nil first rest
  · intro lone
    rw [lone] at layout
    exact filled layout.eq_nil

/-- A tiling that is tight at its end is a layout of some packet. -/
private theorem exists_layout {groups : List Bytes} {body : Bytes} (filled : body ≠ [])
    (clean : delimiter ∉ body) (tiles : Tiles groups body)
    (tight : ∀ groups full, Tiles (groups ++ [full, [1]]) body → full.head? ≠ some fullCode) :
    ∃ packet, Layout packet body := by
  induction groups generalizing body with
  | nil => exact absurd tiles.whole.symm filled
  | cons own others ih =>
      obtain ⟨group, begins, fits⟩ := (tiles.each own List.mem_cons_self).eq_code
      have whole := tiles.whole
      rw [List.flatten_cons, begins, List.cons_append] at whole
      rw [← whole] at clean tiles tight ⊢
      have cleanBoth := List.not_mem_of_not_mem_cons clean
      rw [List.mem_append, not_or] at cleanBoth
      obtain ⟨cleanGroup, cleanRest⟩ := cleanBoth
      obtain ⟨_, split, rest⟩ := tiles.first fits
      rw [← (List.cons.inj split).2] at rest
      cases others with
      | nil =>
          rw [List.flatten_nil, List.append_nil]
          exact ⟨group, .last group cleanGroup fits⟩
      | cons next later =>
          have behind : ∀ groups full, Tiles (groups ++ [full, [1]]) (next :: later).flatten →
              full.head? ≠ some fullCode := by
            intro groups full ends
            exact tight ((code group :: group) :: groups) full (ends.cons fits)
          have filledRest : (next :: later).flatten ≠ [] := by
            intro nothing
            rw [nothing] at rest
            cases rest.nothing
          obtain ⟨packet, layout⟩ := ih filledRest cleanRest rest behind
          by_cases fills : group.length = groupLimit
          · refine ⟨group ++ packet, .full group packet _ cleanGroup fills ?_ layout⟩
            -- Nothing behind a full group would be an empty group.
            intro nothing
            have lone : (next :: later).flatten = [1] := by
              rw [nothing] at layout
              rw [layout.eq_body, layout_nil.eq_body]
            have alone : Tiles [[1]] (next :: later).flatten :=
              ⟨lone.symm, List.forall_mem_singleton.mpr ⟨1, [], rfl, rfl⟩⟩
            apply tight [] (code group :: group) (alone.cons fits)
            rw [List.head?_cons, code_full fills]
          · have short := Nat.lt_of_le_of_ne fits fills
            exact ⟨group ++ delimiter :: packet, .closed group packet _ cleanGroup short layout⟩

private theorem Canonical.eq_body {bytes : Bytes} (canonical : Canonical bytes) :
    ∃ packet, packet ≠ [] ∧ bytes = body packet := by
  obtain ⟨groups, tiles⟩ := canonical.tiled
  obtain ⟨packet, layout⟩ :=
    exists_layout canonical.filled canonical.clean tiles canonical.tight
  refine ⟨packet, ?_, layout.eq_body⟩
  intro nothing
  rw [nothing] at layout
  apply canonical.inhabited
  rw [layout.eq_body, layout_nil.eq_body]

theorem encode_injOn : Set.InjOn encode {packet | packet ≠ []} := by
  intro packet filled other filledOther same
  rw [encode_eq filled, encode_eq filledOther, List.cons.injEq] at same
  rw [← decode_body packet, List.append_cancel_right same.2, decode_body]

/-- Encoding is one to one between packets that are not empty and canonical bodies between two
delimiters. Writing in one pass gives such a body, and a packet is rebuilt from every one of
them that is encoded as it. -/
theorem encode_bijOn_canonical :
    (∀ packet : Bytes, packet ≠ [] →
      ∃ body, (Stuffing.write? packet).map withoutEmptyGroup = some body ∧
        encode packet = delimiter :: (body ++ [delimiter]) ∧ Canonical body) ∧
    (∀ body, Canonical body →
      decode body ≠ [] ∧ encode (decode body) = delimiter :: (body ++ [delimiter])) ∧
    Set.BijOn encode {packet | packet ≠ []}
      {frame | ∃ body, Canonical body ∧ frame = delimiter :: (body ++ [delimiter])} := by
  refine ⟨?_, ?_, ?_, encode_injOn, ?_⟩
  · intro packet filled
    exact ⟨body packet, Stuffing.write?_withoutEmptyGroup filled, encode_eq filled,
      canonical_body filled⟩
  · intro bytes canonical
    obtain ⟨packet, filled, same⟩ := canonical.eq_body
    rw [same, decode_body]
    exact ⟨filled, encode_eq filled⟩
  · intro packet filled
    exact ⟨body packet, canonical_body filled, encode_eq filled⟩
  · rintro frame ⟨bytes, canonical, framed⟩
    obtain ⟨packet, filled, same⟩ := canonical.eq_body
    refine ⟨packet, filled, ?_⟩
    rw [framed, same, encode_eq filled]

/-- A full group with a zero behind it, which leaves an empty group at the end that is not
behind the full one. -/
theorem encode_bijOn_canonical_behind_full_group :
    let packet : Bytes := List.replicate 254 0x5A ++ [0]
    let body : Bytes := 0xFF :: (List.replicate 254 0x5A ++ [1, 1])
    packet ≠ [] ∧ Canonical body ∧ decode body = packet ∧
      encode packet = delimiter :: (body ++ [delimiter]) := by
  intro packet expected
  have filled : packet ≠ [] := by decide
  obtain ⟨writes, rebuilds, _⟩ := encode_bijOn_canonical
  obtain ⟨body, written, framed, canonical⟩ := writes packet filled
  have trimmed : (Stuffing.write? packet).map withoutEmptyGroup = some expected := by
    decide +kernel
  rw [written, Option.some.injEq] at trimmed
  rw [trimmed] at framed canonical
  have read : decode expected = packet := by decide +kernel
  have again := (rebuilds expected canonical).2
  rw [read] at again
  exact ⟨filled, canonical, read, again⟩

end Telemetry.Frame
