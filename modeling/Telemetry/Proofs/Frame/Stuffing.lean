/-
What is written in one pass is the body of the frame, after trimming. Before that it is a
layout of the packet that may have an empty group behind a full last one.

While bytes are pushed, the buffer holds the groups that have ended, the place of a code,
and the bytes of the open group. A full group has taken 254 bytes of the packet for the one
place it needs in addition, so there is room for every byte; only the place of the code of a
last, empty group may be missing.
-/

import Telemetry.Frame.Stuffing
import Telemetry.Proofs.Frame.Layout

namespace Telemetry.Frame

/-- A layout, possibly with an empty group behind a full last one. -/
inductive Padded : Bytes → Bytes → Prop where
  | last (group : Bytes) (clean : delimiter ∉ group) (fits : group.length ≤ groupLimit) :
      Padded group (code group :: group)
  | spare (group : Bytes) (clean : delimiter ∉ group) (fills : group.length = groupLimit) :
      Padded group (code group :: (group ++ [code []]))
  | full (group packet bytes : Bytes) (clean : delimiter ∉ group)
      (fills : group.length = groupLimit) (more : packet ≠ []) (later : Padded packet bytes) :
      Padded (group ++ packet) (code group :: (group ++ bytes))
  | closed (group packet bytes : Bytes) (clean : delimiter ∉ group)
      (short : group.length < groupLimit) (later : Padded packet bytes) :
      Padded (group ++ delimiter :: packet) (code group :: (group ++ bytes))

theorem code_full {group : Bytes} (fills : group.length = groupLimit) :
    code group = fullCode := by
  rw [code, fills]
  rfl

theorem code_ne_full {group : Bytes} (short : group.length < groupLimit) :
    code group ≠ fullCode := by
  intro same
  have size := code_toNat (Nat.le_of_lt short)
  rw [same] at size
  have full : fullCode.toNat = groupLimit + 1 := rfl
  omega

private theorem trimAfter_owed (before : Option UInt8) (group tail : Bytes) :
    trimAfter before group.length (group ++ tail) = group ++ trimAfter before 0 tail := by
  induction group with
  | nil => rfl
  | cons byte rest ih => rw [List.length_cons, List.cons_append, trimAfter, ih, List.cons_append]

/-- The walk steps over a group, unless that is all there is behind a full one. -/
private theorem trimAfter_group {before : Option UInt8} {group tail : Bytes}
    (fits : group.length ≤ groupLimit)
    (kept : before = some fullCode → group ++ tail ≠ []) :
    trimAfter before 0 (code group :: (group ++ tail)) =
      code group :: (group ++ trimAfter (some (code group)) 0 tail) := by
  rw [trimAfter, if_neg fun dropped => kept dropped.1 dropped.2.2, code_toNat fits,
    Nat.add_sub_cancel, trimAfter_owed]

private theorem Padded.ne_nil {packet bytes : Bytes} (padded : Padded packet bytes) :
    bytes ≠ [] := by
  cases padded <;> exact List.cons_ne_nil _ _

private theorem Padded.trimAfter {packet bytes : Bytes} (padded : Padded packet bytes)
    {before : Option UInt8} (kept : packet = [] → before ≠ some fullCode) :
    Layout packet (trimAfter before 0 bytes) := by
  induction padded generalizing before with
  | last group clean fits =>
      have nonempty : before = some fullCode → group ++ [] ≠ [] := by
        intro full nothing
        rw [List.append_nil] at nothing
        exact kept nothing full
      have walked := trimAfter_group fits nonempty
      rw [List.append_nil, Frame.trimAfter, List.append_nil] at walked
      rw [walked]
      exact .last group clean fits
  | spare group clean fills =>
      have dropped : Frame.trimAfter (some fullCode) 0 [code []] = [] := by
        rw [Frame.trimAfter, if_pos ⟨rfl, rfl, rfl⟩]
      rw [trimAfter_group (Nat.le_of_eq fills)
        fun _ => List.append_ne_nil_of_right_ne_nil group (List.cons_ne_nil _ _),
        code_full fills, dropped, List.append_nil, ← code_full fills]
      exact .last group clean (Nat.le_of_eq fills)
  | full group packet bytes clean fills more later ih =>
      rw [trimAfter_group (Nat.le_of_eq fills)
        fun _ => List.append_ne_nil_of_right_ne_nil group later.ne_nil]
      exact .full group packet _ clean fills more (ih fun nothing => absurd nothing more)
  | closed group packet bytes clean short later ih =>
      rw [trimAfter_group (Nat.le_of_lt short)
        fun _ => List.append_ne_nil_of_right_ne_nil group later.ne_nil]
      refine .closed group packet _ clean short (ih fun _ full => ?_)
      exact code_ne_full short (Option.some.inj full)

private theorem Padded.withoutEmptyGroup {packet bytes : Bytes} (padded : Padded packet bytes) :
    withoutEmptyGroup bytes = body packet := by
  have kept : packet = [] → none ≠ some fullCode := by
    intro _ impossible
    cases impossible
  exact (padded.trimAfter kept).eq_body

private theorem Padded.of_nil {packet bytes : Bytes} (padded : Padded packet bytes)
    (nothing : packet = []) : bytes = [code []] := by
  cases padded with
  | last group clean fits => rw [nothing]
  | spare group clean fills =>
      rw [nothing] at fills
      cases fills
  | full group packet bytes clean fills more later =>
      exact absurd (List.append_eq_nil_iff.mp nothing).2 more
  | closed group packet bytes clean short later =>
      cases (List.append_eq_nil_iff.mp nothing).2

/-- It makes no difference to a full group whether there is an empty one behind it. -/
private theorem padded_full {group packet bytes : Bytes} (clean : delimiter ∉ group)
    (fills : group.length = groupLimit)
    (later : Padded packet bytes ∨ (packet = [] ∧ bytes = [])) :
    Padded (group ++ packet) (code group :: (group ++ bytes)) := by
  rcases later with later | ⟨rfl, rfl⟩
  · by_cases nothing : packet = []
    · rw [later.of_nil nothing, nothing, List.append_nil]
      exact .spare group clean fills
    · exact .full group packet bytes clean fills nothing later
  · rw [List.append_nil]
    exact .last group clean (Nat.le_of_eq fills)

namespace Stuffing

/-- Full groups leave a place free as long as the packet goes on behind them. -/
private theorem lt_room {size fulls : Nat} (unfinished : groupLimit * fulls < size) :
    size + fulls < room size := by
  have limit : groupLimit = 254 := rfl
  rw [limit] at unfinished
  unfold room
  rw [limit]
  split <;> omega

@[simp]
theorem put?_behind (front back : Bytes) (old byte : UInt8) :
    put? (front ++ old :: back) front.length byte = some (front ++ byte :: back) := by
  have inside : front.length < (front ++ old :: back).length := by
    rw [List.length_append, List.length_cons]
    omega
  rw [put?, if_pos inside, List.set_append_right _ _ (Nat.le_refl _), Nat.sub_self,
    List.set_cons_zero]

private theorem length_of_put? {buffer after : Bytes} {place : Nat} {byte : UInt8}
    (put : put? buffer place byte = some after) : after.length = buffer.length := by
  unfold put? at put
  split at put
  · cases put
    exact List.length_set
  · cases put

/-- A writer that has ended these groups and has this one open, behind so many bytes with so
many full groups among them. -/
structure Stage (capacity : Nat) (writer : Writer) (ended group : Bytes) (pushed fulls : Nat) :
    Prop where
  capacity : writer.buffer.length = capacity
  codeAt : writer.codeAt = ended.length
  count : writer.code = group.length + 1
  next : writer.next = ended.length + 1 + group.length
  /-- Behind the ended groups stand the place of a code, unless the buffer ends there, and the
  open group. -/
  written : ∃ opened slack, writer.buffer = ended ++ opened ∧ opened.drop 1 = group ++ slack
  clean : delimiter ∉ group
  short : group.length < groupLimit
  size : ended.length + group.length = pushed + fulls
  taken : groupLimit * fulls + group.length ≤ pushed

variable {capacity : Nat} {writer : Writer} {ended group : Bytes} {pushed fulls : Nat}
  {byte : UInt8}

private theorem stage_start (size : Nat) : Stage (room size) (start size) [] [] 0 0 where
  capacity := List.length_replicate
  codeAt := rfl
  count := rfl
  next := rfl
  written := ⟨List.replicate (room size) 0, (List.replicate (room size) 0).drop 1, rfl, rfl⟩
  clean := List.not_mem_nil
  short := Nat.zero_lt_succ _
  size := rfl
  taken := Nat.le_refl _

private theorem Stage.opened (stage : Stage capacity writer ended group pushed fulls)
    (inside : ended.length < capacity) :
    ∃ hole slack, writer.buffer = ended ++ hole :: (group ++ slack) := by
  obtain ⟨opened, slack, buffer, behind⟩ := stage.written
  cases opened with
  | nil =>
      rw [← stage.capacity, buffer, List.append_nil] at inside
      exact absurd inside (Nat.lt_irrefl _)
  | cons hole rest =>
      rw [List.drop_succ_cons, List.drop_zero] at behind
      rw [behind] at buffer
      exact ⟨hole, slack, buffer⟩

/-- The place behind the open group, where there is one. -/
private theorem put?_next {lead : UInt8} {slack : Bytes}
    (inside : ended.length + 1 + group.length <
      (ended ++ lead :: (group ++ slack)).length) (byte : UInt8) :
    ∃ later,
      put? (ended ++ lead :: (group ++ slack)) (ended.length + 1 + group.length) byte =
        some (ended ++ lead :: (group ++ byte :: later)) := by
  cases slack with
  | nil =>
      simp only [List.length_append, List.length_cons, List.length_nil] at inside
      omega
  | cons old later =>
      have placed := put?_behind (ended ++ lead :: group) later old byte
      rw [List.length_append, List.length_cons, List.append_assoc, List.append_assoc,
        List.cons_append, List.cons_append] at placed
      refine ⟨later, ?_⟩
      rw [← placed]
      congr 1
      omega

/-- A zero ends the open group. -/
private theorem Stage.push_zero (stage : Stage capacity writer ended group pushed fulls)
    (inside : ended.length < capacity) :
    ∃ after, push? writer delimiter = some after ∧
      Stage capacity after (ended ++ code group :: group) [] (pushed + 1) fulls := by
  obtain ⟨hole, slack, buffer⟩ := stage.opened inside
  have coded := put?_behind ended (group ++ slack) hole (code group)
  have sized := length_of_put? coded
  rw [← buffer, stage.capacity] at sized
  unfold push?
  rw [if_pos rfl, buffer, stage.codeAt, stage.count, ← Frame.code, coded]
  refine ⟨_, rfl, ?_⟩
  have groups := stage.size
  have taken := stage.taken
  refine ⟨sized, ?_, rfl, ?_, ⟨slack, slack.drop 1, ?_, rfl⟩, List.not_mem_nil,
    Nat.zero_lt_succ _, ?_, ?_⟩
  · rw [List.length_append, List.length_cons]
  · simp only [stage.next, List.length_append, List.length_cons, List.length_nil]
    omega
  · rw [List.append_assoc, List.cons_append]
  · rw [List.length_append, List.length_cons, List.length_nil]
    omega
  · rw [List.length_nil]
    omega

/-- A byte goes behind the open group as long as that is not full with it. -/
private theorem Stage.push_open (stage : Stage capacity writer ended group pushed fulls)
    (inside : ended.length + 1 + group.length < capacity) (nonzero : byte ≠ delimiter)
    (short : group.length + 1 < groupLimit) :
    ∃ after, push? writer byte = some after ∧
      Stage capacity after ended (group ++ [byte]) (pushed + 1) fulls := by
  obtain ⟨hole, slack, buffer⟩ := stage.opened (by omega)
  have held := stage.capacity
  rw [buffer] at held
  obtain ⟨later, placed⟩ := put?_next (held ▸ inside) byte
  have sized := length_of_put? placed
  have notFull : ¬ group.length + 1 + 1 = fullCode.toNat := by
    have full : fullCode.toNat = groupLimit + 1 := rfl
    omega
  unfold push?
  rw [if_neg nonzero, stage.count, if_neg notFull, buffer, stage.next, placed]
  refine ⟨_, rfl, ?_⟩
  have groups := stage.size
  have taken := stage.taken
  refine ⟨sized.trans held, stage.codeAt, ?_, ?_,
    ⟨hole :: (group ++ byte :: later), later, rfl, ?_⟩, ?_, ?_, ?_, ?_⟩
  · rw [List.length_append, List.length_singleton]
  · rw [List.length_append, List.length_singleton]
    rfl
  · rw [List.drop_succ_cons, List.drop_zero, List.append_assoc, List.singleton_append]
  · exact List.not_mem_append stage.clean fun member =>
      nonzero (List.mem_singleton.mp member).symm
  · rw [List.length_append, List.length_singleton]
    exact short
  · rw [List.length_append, List.length_singleton]
    omega
  · rw [List.length_append, List.length_singleton]
    omega

/-- The last byte of a full group ends it. -/
private theorem Stage.push_full (stage : Stage capacity writer ended group pushed fulls)
    (inside : ended.length + 1 + group.length < capacity) (nonzero : byte ≠ delimiter)
    (fills : group.length + 1 = groupLimit) :
    ∃ after, push? writer byte = some after ∧
      Stage capacity after (ended ++ code (group ++ [byte]) :: (group ++ [byte])) []
        (pushed + 1) (fulls + 1) := by
  obtain ⟨hole, slack, buffer⟩ := stage.opened (by omega)
  have filled : (group ++ [byte]).length = groupLimit := by
    rw [List.length_append, List.length_singleton, fills]
  have coded := put?_behind ended (group ++ slack) hole fullCode
  have held := stage.capacity
  rw [buffer, ← length_of_put? coded] at held
  obtain ⟨later, placed⟩ := put?_next (held ▸ inside) byte
  have sized := length_of_put? placed
  have full : group.length + 1 + 1 = fullCode.toNat := by
    have full : fullCode.toNat = groupLimit + 1 := rfl
    omega
  unfold push?
  rw [if_neg nonzero, stage.count, if_pos full, buffer, stage.codeAt, coded]
  simp only [Option.bind_eq_bind, Option.bind_some]
  rw [stage.next, placed]
  refine ⟨_, rfl, ?_⟩
  have groups := stage.size
  have taken := stage.taken
  refine ⟨sized.trans held, ?_, rfl, ?_, ⟨later, later.drop 1, ?_, rfl⟩, List.not_mem_nil,
    Nat.zero_lt_succ _, ?_, ?_⟩
  · rw [List.length_append, List.length_cons, filled, fills]
  · simp only [List.length_append, List.length_cons, List.length_nil]
    omega
  · rw [code_full filled, List.append_assoc, List.cons_append, List.append_assoc,
      List.singleton_append]
  · rw [List.length_append, List.length_cons, filled, List.length_nil]
    omega
  · rw [List.length_nil, Nat.mul_succ]
    omega

private theorem Stage.finish (stage : Stage capacity writer ended group pushed fulls)
    (inside : ended.length < capacity) :
    writer.finish = ended ++ code group :: group := by
  obtain ⟨hole, slack, buffer⟩ := stage.opened inside
  have whole : (ended ++ code group :: group).length = writer.next := by
    rw [stage.next, List.length_append, List.length_cons]
    omega
  rw [Writer.finish, stage.codeAt, stage.count, ← Frame.code, buffer,
    List.set_append_right _ _ (Nat.le_refl _), Nat.sub_self, List.set_cons_zero,
    ← List.cons_append, ← List.append_assoc, ← whole, List.take_left]

private theorem Stage.finish_at_end (stage : Stage capacity writer ended group pushed fulls)
    (outside : capacity ≤ ended.length) : writer.finish = ended ∧ group = [] := by
  obtain ⟨opened, slack, buffer, behind⟩ := stage.written
  have sized := congrArg List.length buffer
  rw [stage.capacity, List.length_append] at sized
  have nothing : opened = [] := List.length_eq_zero_iff.mp (by omega)
  rw [nothing, List.append_nil] at buffer
  rw [nothing] at behind
  have beyond : writer.buffer.length ≤ writer.codeAt := by
    rw [stage.capacity, stage.codeAt]
    exact outside
  refine ⟨?_, (List.append_eq_nil_iff.mp behind.symm).1⟩
  rw [Writer.finish, List.set_eq_of_length_le beyond, buffer, stage.next]
  exact List.take_of_length_le (by omega)

/-- As long as the packet goes on, there is a place behind the open group. -/
private theorem Stage.room_left {size : Nat}
    (stage : Stage (room size) writer ended group pushed fulls)
    (more : pushed < size) : ended.length + 1 + group.length < room size := by
  have groups := stage.size
  have taken := stage.taken
  have enough := lt_room (show groupLimit * fulls < size by omega)
  omega

/-- Every byte of the packet finds a place. What stands behind the groups that have ended is
then padded from the rest of the packet, or nothing, where the packet ends with them and fills
the buffer. -/
theorem Stage.pushes {size : Nat} {todo : Bytes} (whole : pushed + todo.length = size)
    (stage : Stage (room size) writer ended group pushed fulls) :
    ∃ last bytes, todo.foldlM push? writer = some last ∧ last.finish = ended ++ bytes ∧
      (Padded (group ++ todo) bytes ∨
        (group ++ todo = [] ∧ bytes = [] ∧ room size ≤ ended.length)) := by
  -- On what is still to come. What has been pushed is known through the stage alone.
  induction todo generalizing writer ended group pushed fulls with
  | nil =>
      rw [List.append_nil]
      by_cases inside : ended.length < room size
      · have fits := Nat.le_of_lt stage.short
        exact ⟨writer, code group :: group, rfl, stage.finish inside,
          .inl (.last group stage.clean fits)⟩
      · obtain ⟨finish, nothing⟩ := stage.finish_at_end (Nat.le_of_not_lt inside)
        refine ⟨writer, [], rfl, ?_, .inr ⟨nothing, rfl, Nat.le_of_not_lt inside⟩⟩
        rw [finish, List.append_nil]
  | cons byte rest ih =>
      rw [List.length_cons] at whole
      have wholeAfter : pushed + 1 + rest.length = size := by omega
      have inside := stage.room_left (show pushed < size by omega)
      have short := stage.short
      rw [List.foldlM_cons]
      by_cases zero : byte = delimiter
      · obtain ⟨after, pushing, stageAfter⟩ := stage.push_zero (by omega)
        obtain ⟨last, bytes, run, finish, outcome⟩ := ih wholeAfter stageAfter
        -- The zero took a place of its own, so the code behind it has one.
        have padded : Padded rest bytes := by
          rcases outcome with padded | ⟨_, _, full⟩
          · exact padded
          · rw [List.length_append, List.length_cons] at full
            omega
        refine ⟨last, code group :: (group ++ bytes), ?_, ?_,
          .inl (zero ▸ .closed group rest bytes stage.clean short padded)⟩
        · rw [zero, pushing]
          exact run
        · rw [finish, List.append_assoc, List.cons_append]
      · by_cases fills : group.length + 1 = groupLimit
        · obtain ⟨after, pushing, stageAfter⟩ := stage.push_full inside zero fills
          obtain ⟨last, bytes, run, finish, outcome⟩ := ih wholeAfter stageAfter
          have filled : (group ++ [byte]).length = groupLimit := by
            rw [List.length_append, List.length_singleton, fills]
          have clean : delimiter ∉ group ++ [byte] :=
            List.not_mem_append stage.clean fun member => zero (List.mem_singleton.mp member).symm
          have padded := padded_full clean filled
            (outcome.imp_right fun ending => ⟨ending.1, ending.2.1⟩)
          rw [List.nil_append, ← List.append_cons] at padded
          refine ⟨last, _, ?_, ?_, .inl padded⟩
          · rw [pushing]
            exact run
          · rw [finish, List.append_assoc, List.cons_append]
        · obtain ⟨after, pushing, stageAfter⟩ := stage.push_open inside zero (by omega)
          obtain ⟨last, bytes, run, finish, outcome⟩ := ih wholeAfter stageAfter
          rw [← List.append_cons] at outcome
          refine ⟨last, bytes, ?_, finish, outcome⟩
          rw [pushing]
          exact run

/-- Writing in one pass always succeeds, and gives the body of the frame once it is
trimmed. -/
theorem write?_withoutEmptyGroup {packet : Bytes} (filled : packet ≠ []) :
    (write? packet).map withoutEmptyGroup = some (body packet) := by
  have whole : 0 + packet.length = packet.length := Nat.zero_add packet.length
  obtain ⟨last, bytes, run, finish, outcome⟩ := (stage_start packet.length).pushes whole
  rw [List.nil_append] at finish outcome
  rcases outcome with padded | ⟨nothing, _⟩
  · rw [write?, run, Option.map_some, finish, Option.map_some, padded.withoutEmptyGroup]
  · exact absurd nothing filled

end Stuffing

end Telemetry.Frame
