/-
How a packet lies in the body of a frame. A layout cuts the packet into groups of
non-zero bytes, each behind a code that tells its length: a full group stands for
its bytes, a shorter one in front of another group for its bytes and the zero it
ended at, and the last group for its bytes alone.

Writing produces a layout of every packet. A reader rebuilds the packet from any
of its layouts, so what is known of layouts is known of frames. So is their size: a
layout adds a byte for the first group, and one for each that lies behind a full one.
-/

import Telemetry.Frame

namespace Telemetry.Frame

/-- The byte in front of a group. -/
def code (group : Bytes) : UInt8 := UInt8.ofNat (group.length + 1)

inductive Layout : Bytes → Bytes → Prop where
  | last (group : Bytes) (clean : delimiter ∉ group) (fits : group.length ≤ groupLimit) :
      Layout group (code group :: group)
  | full (group packet body : Bytes) (clean : delimiter ∉ group)
      (fills : group.length = groupLimit) (more : packet ≠ []) (later : Layout packet body) :
      Layout (group ++ packet) (code group :: (group ++ body))
  | closed (group packet body : Bytes) (clean : delimiter ∉ group)
      (short : group.length < groupLimit) (later : Layout packet body) :
      Layout (group ++ delimiter :: packet) (code group :: (group ++ body))

theorem encode_eq {packet : Bytes} (filled : packet ≠ []) :
    encode packet = delimiter :: (body packet ++ [delimiter]) := by
  cases packet with
  | nil => exact absurd rfl filled
  | cons first later => rfl

private theorem nextGroup_clean (packet : Bytes) : delimiter ∉ nextGroup packet := by
  intro member
  have kept := List.all_eq_true.mp List.all_takeWhile delimiter member
  exact of_decide_eq_true kept rfl

private theorem nextGroup_length_le (packet : Bytes) : (nextGroup packet).length ≤ groupLimit := by
  have shorter : (nextGroup packet).length ≤ (packet.take groupLimit).length :=
    (List.takeWhile_prefix _).length_le
  rw [List.length_take] at shorter
  omega

@[simp]
theorem nextGroup_append_drop (packet : Bytes) :
    nextGroup packet ++ packet.drop (nextGroup packet).length = packet := by
  have front : nextGroup packet <+: packet :=
    (List.takeWhile_prefix _).trans (List.take_prefix groupLimit packet)
  exact List.prefix_iff_eq_append.mp front

/-- A group that is not full stops at a zero. -/
private theorem head_of_short_group {packet later : Bytes} {next : UInt8}
    (short : (nextGroup packet).length < groupLimit)
    (behind : packet.drop (nextGroup packet).length = next :: later) : next = delimiter := by
  have whole := nextGroup_append_drop packet
  rw [behind] at whole
  have window : (nextGroup packet ++ next :: later).take groupLimit =
      nextGroup packet ++ (next :: later).take (groupLimit - (nextGroup packet).length) := by
    rw [List.take_append, List.take_of_length_le (Nat.le_of_lt short)]
  obtain ⟨room, hasRoom⟩ : ∃ room, groupLimit - (nextGroup packet).length = room + 1 :=
    ⟨groupLimit - (nextGroup packet).length - 1, by omega⟩
  by_cases zero : next = delimiter
  · exact zero
  · exfalso
    have clean : ∀ byte ∈ nextGroup packet, decide (byte ≠ delimiter) = true := by
      intro byte member
      refine decide_eq_true fun same => ?_
      exact nextGroup_clean packet (same ▸ member)
    have same : nextGroup packet =
        (nextGroup packet ++ (next :: later).take (room + 1)).takeWhile (· ≠ delimiter) := by
      rw [← hasRoom, ← window, whole]
      rfl
    rw [List.takeWhile_append_of_pos clean, List.take_succ_cons,
      List.takeWhile_cons_of_pos (by exact decide_eq_true zero)] at same
    have lengths := congrArg List.length same
    rw [List.length_append, List.length_cons] at lengths
    omega

private theorem body_of_drop_nil {packet : Bytes}
    (behind : packet.drop (nextGroup packet).length = []) :
    body packet = code (nextGroup packet) :: nextGroup packet := by
  rw [body]
  split
  · rw [List.append_nil, code]
  · next next later same =>
      rw [behind] at same
      cases same

private theorem body_of_drop_cons {packet later : Bytes} {next : UInt8}
    (behind : packet.drop (nextGroup packet).length = next :: later) :
    body packet = code (nextGroup packet) :: (nextGroup packet ++
      if (nextGroup packet).length = groupLimit then body (next :: later) else body later) := by
  rw [body]
  split
  · next same =>
      rw [behind] at same
      cases same
  · next other rest same =>
      rw [behind, List.cons.injEq] at same
      rw [← same.1, ← same.2, code]

theorem layout_body (packet : Bytes) : Layout packet (body packet) := by
  have whole := nextGroup_append_drop packet
  cases behind : packet.drop (nextGroup packet).length with
  | nil =>
      have here := Layout.last (nextGroup packet) (nextGroup_clean packet)
        (nextGroup_length_le packet)
      rw [behind, List.append_nil] at whole
      rw [body_of_drop_nil behind]
      rwa [whole] at here ⊢
  | cons next later =>
      have lengths := congrArg List.length whole
      rw [behind, List.length_append, List.length_cons] at lengths
      rw [behind] at whole
      rw [body_of_drop_cons behind]
      by_cases fills : (nextGroup packet).length = groupLimit
      · have smaller : (next :: later).length < packet.length := by
          have positive : groupLimit = 254 := rfl
          rw [List.length_cons]
          omega
        have here := Layout.full (nextGroup packet) (next :: later) (body (next :: later))
          (nextGroup_clean packet) fills (List.cons_ne_nil next later)
          (layout_body (next :: later))
        rw [whole] at here
        rw [if_pos fills]
        exact here
      · have short := Nat.lt_of_le_of_ne (nextGroup_length_le packet) fills
        have smaller : later.length < packet.length := by omega
        have here := Layout.closed (nextGroup packet) later (body later)
          (nextGroup_clean packet) short (layout_body later)
        rw [← head_of_short_group short behind, whole] at here
        rw [if_neg fills]
        exact here
termination_by packet.length

/-- A group ends where it is full, at a zero, or with the packet. -/
private theorem nextGroup_append {group tail : Bytes} (clean : delimiter ∉ group)
    (fits : group.length ≤ groupLimit)
    (ends : group.length = groupLimit ∨ tail = [] ∨ ∃ rest, tail = delimiter :: rest) :
    nextGroup (group ++ tail) = group := by
  have nonzero : ∀ byte ∈ group, decide (byte ≠ delimiter) = true := by
    intro byte member
    refine decide_eq_true fun same => ?_
    exact clean (same ▸ member)
  have stops : (tail.take (groupLimit - group.length)).takeWhile (· ≠ delimiter) = [] := by
    rcases ends with full | nothing | ⟨rest, zero⟩
    · rw [full, Nat.sub_self]
      rfl
    · rw [nothing, List.take_nil]
      rfl
    · rw [zero]
      cases groupLimit - group.length with
      | zero => rfl
      | succ room => rfl
  rw [nextGroup, List.take_append, List.take_of_length_le fits,
    List.takeWhile_append_of_pos nonzero, stops, List.append_nil]

/-- There is only one layout of a packet. -/
theorem Layout.eq_body {packet bytes : Bytes} (layout : Layout packet bytes) :
    bytes = body packet := by
  induction layout with
  | last group clean fits =>
      have here := nextGroup_append clean fits (.inr (.inl rfl))
      rw [List.append_nil] at here
      have behind : group.drop (nextGroup group).length = [] := by
        rw [here, List.drop_length]
      rw [body_of_drop_nil behind, here]
  | full group packet bytes clean fills more later ih =>
      have here : nextGroup (group ++ packet) = group :=
        nextGroup_append clean (Nat.le_of_eq fills) (.inl fills)
      obtain ⟨next, rest, begins⟩ := List.exists_cons_of_ne_nil more
      have behind : (group ++ packet).drop (nextGroup (group ++ packet)).length = next :: rest := by
        rw [here, List.drop_left, begins]
      rw [body_of_drop_cons behind, here, if_pos fills, ← begins, ih]
  | closed group packet bytes clean short later ih =>
      have here := nextGroup_append clean (Nat.le_of_lt short)
        (.inr (.inr ⟨packet, rfl⟩))
      have behind : (group ++ delimiter :: packet).drop
          (nextGroup (group ++ delimiter :: packet)).length = delimiter :: packet := by
        rw [here, List.drop_left]
      rw [body_of_drop_cons behind, here, if_neg (Nat.ne_of_lt short), ih]

theorem code_toNat {group : Bytes} (fits : group.length ≤ groupLimit) :
    (code group).toNat = group.length + 1 := by
  have limit : groupLimit = 254 := rfl
  rw [code, UInt8.toNat_ofNat']
  omega

private theorem code_ne_delimiter {group : Bytes} (fits : group.length ≤ groupLimit) :
    code group ≠ delimiter := by
  intro same
  have lengths := code_toNat fits
  rw [same] at lengths
  cases lengths

/-- A reader that has the code owes the whole group, and closes it unless it is full. -/
private theorem opened_code {group : Bytes} (fits : group.length ≤ groupLimit) :
    Progress.opened (code group) = .group group.length (decide (group.length ≠ groupLimit)) := by
  have limit : groupLimit = 254 := rfl
  have size := code_toNat fits
  have isFull : code group = fullCode ↔ group.length = groupLimit := by
    rw [← UInt8.toNat_inj, size]
    have full : fullCode.toNat = 255 := rfl
    omega
  rw [Progress.opened, size, Nat.add_sub_cancel, bne]
  congr 1
  by_cases fills : group.length = groupLimit
  · rw [isFull.mpr fills, decide_eq_false (fun different => different fills), beq_self_eq_true]
    rfl
  · rw [decide_eq_true fills, beq_false_of_ne (fun same => fills (isFull.mp same))]
    rfl

theorem Layout.clean {packet body : Bytes} (layout : Layout packet body) : delimiter ∉ body := by
  induction layout with
  | last group clean fits =>
      exact List.not_mem_cons_of_ne_of_not_mem (code_ne_delimiter fits).symm clean
  | full group packet body clean fills more later ih =>
      have both := List.not_mem_append clean ih
      exact List.not_mem_cons_of_ne_of_not_mem (code_ne_delimiter (Nat.le_of_eq fills)).symm both
  | closed group packet body clean short later ih =>
      have both := List.not_mem_append clean ih
      exact List.not_mem_cons_of_ne_of_not_mem (code_ne_delimiter (Nat.le_of_lt short)).symm both

/-- The first code is added to the packet, and no byte of the packet is saved. -/
theorem Layout.lt_length {packet body : Bytes} (layout : Layout packet body) :
    packet.length + 1 ≤ body.length := by
  induction layout with
  | last group clean fits => exact Nat.le_refl (group.length + 1)
  | full group packet body clean fills more later ih =>
      simp only [List.length_cons, List.length_append]
      omega
  | closed group packet body clean short later ih =>
      simp only [List.length_cons, List.length_append]
      omega

/-- A code that lies behind a short group stands in place of a zero. -/
theorem Layout.length_le {packet body : Bytes} (layout : Layout packet body) :
    body.length ≤ packet.length + max 1 ((packet.length + 253) / 254) := by
  have limit : groupLimit = 254 := rfl
  induction layout with
  | last group clean fits =>
      rw [List.length_cons]
      omega
  | full group packet body clean fills more later ih =>
      have filled := List.length_pos_iff.mpr more
      simp only [List.length_cons, List.length_append]
      omega
  | closed group packet body clean short later ih =>
      simp only [List.length_cons, List.length_append]
      omega

/-- Once a frame has begun, a delimiter ends it. -/
@[simp]
theorem rebuild_delimiter (owed : Nat) (closes : Bool) (rest : Bytes) :
    rebuild (.group owed closes) (delimiter :: rest) = [] := by
  cases owed <;> rw [rebuild, if_pos rfl]

/-- A reader takes the bytes it is owed as they are. -/
private theorem rebuild_group (group tail : Bytes) (closes : Bool) (clean : delimiter ∉ group) :
    rebuild (.group group.length closes) (group ++ tail) =
      group ++ rebuild (.group 0 closes) tail := by
  induction group with
  | nil => rfl
  | cons byte rest ih =>
      obtain ⟨different, cleanRest⟩ := List.ne_and_not_mem_of_not_mem_cons clean
      rw [List.length_cons, List.cons_append, rebuild, if_neg different.symm, ih cleanRest,
        List.cons_append]

/-- What a reader rebuilds from here on, behind a group or in front of the first. -/
private theorem rebuild_code {group tail : Bytes} (clean : delimiter ∉ group)
    (fits : group.length ≤ groupLimit) :
    rebuild .waiting (code group :: (group ++ tail)) =
      group ++ rebuild (.group 0 (decide (group.length ≠ groupLimit))) tail := by
  rw [rebuild, if_neg (code_ne_delimiter fits), opened_code fits, rebuild_group group tail _ clean]

private theorem rebuild_behind_group {front tail : Bytes} {first : UInt8} (closes : Bool)
    (begins : front = first :: tail) (nonzero : first ≠ delimiter) :
    rebuild (.group 0 closes) front =
      (if closes then [delimiter] else []) ++ rebuild .waiting front := by
  rw [begins, rebuild, if_neg nonzero, rebuild, if_neg nonzero]

theorem Layout.begins {packet body : Bytes} (layout : Layout packet body) :
    ∃ first tail, body = first :: tail ∧ first ≠ delimiter := by
  cases layout with
  | last group clean fits => exact ⟨code packet, packet, rfl, code_ne_delimiter fits⟩
  | full group packet body clean fills more later =>
      exact ⟨code group, group ++ body, rfl, code_ne_delimiter (Nat.le_of_eq fills)⟩
  | closed group packet body clean short later =>
      exact ⟨code group, group ++ body, rfl, code_ne_delimiter (Nat.le_of_lt short)⟩

/-- A packet is rebuilt from any layout of it, if nothing more is rebuilt from what
stands behind. -/
theorem Layout.rebuild_append {packet body tail : Bytes} (layout : Layout packet body)
    (stops : ∀ closes, rebuild (.group 0 closes) tail = []) :
    rebuild .waiting (body ++ tail) = packet := by
  induction layout with
  | last group clean fits =>
      rw [List.cons_append, rebuild_code clean fits, stops, List.append_nil]
  | full group packet body clean fills more later ih =>
      obtain ⟨first, rest, begins, nonzero⟩ := later.begins
      have front : body ++ tail = first :: (rest ++ tail) := by rw [begins, List.cons_append]
      rw [List.cons_append, List.append_assoc, rebuild_code clean (Nat.le_of_eq fills),
        rebuild_behind_group _ front nonzero, ih,
        if_neg (by simp [fills]), List.nil_append]
  | closed group packet body clean short later ih =>
      obtain ⟨first, rest, begins, nonzero⟩ := later.begins
      have front : body ++ tail = first :: (rest ++ tail) := by rw [begins, List.cons_append]
      rw [List.cons_append, List.append_assoc, rebuild_code clean (Nat.le_of_lt short),
        rebuild_behind_group _ front nonzero, ih,
        if_pos (decide_eq_true (Nat.ne_of_lt short)), List.singleton_append]

theorem Layout.decode_append {packet body tail : Bytes} (layout : Layout packet body)
    (stops : ∀ closes, rebuild (.group 0 closes) tail = []) : decode (body ++ tail) = packet := by
  obtain ⟨first, rest, begins, nonzero⟩ := layout.begins
  have kept : withoutLead (body ++ tail) = body ++ tail := by
    rw [begins, List.cons_append, withoutLead, if_neg nonzero]
  rw [decode, kept]
  exact layout.rebuild_append stops

/-- A reader takes the leading delimiter of a frame or does without. -/
theorem Layout.decode_delimited {packet body tail : Bytes} (layout : Layout packet body)
    (stops : ∀ closes, rebuild (.group 0 closes) tail = []) :
    decode (delimiter :: (body ++ tail)) = packet := by
  rw [decode, withoutLead, if_pos rfl]
  exact layout.rebuild_append stops

@[simp]
theorem decode_body (packet : Bytes) : decode (body packet) = packet := by
  have nothing : decode (body packet ++ []) = packet :=
    (layout_body packet).decode_append fun _ => rfl
  rwa [List.append_nil] at nothing

end Telemetry.Frame
