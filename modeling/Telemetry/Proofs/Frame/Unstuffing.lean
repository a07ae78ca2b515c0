/-
Where reading a frame stops. The machine that is told one byte after the other rebuilds the
same packet as the definition that looks at all of them, and never runs out of buffer.

Once a frame has begun, the next delimiter ends it, whether the frame is whole, was cut off or
makes no sense, and nothing behind that delimiter is looked at. Before a frame has begun no
delimiter ends anything: any number of them is skipped, not just the one that a frame may
have in front. So between two delimiters with nothing between them reading does not stop.
-/

import Telemetry.Frame.Unstuffing
import Telemetry.Proofs.Frame.Stuffing

namespace Telemetry.Frame

namespace Unstuffing

/-- What is rebuilt is what the machine says. -/
private theorem rebuild_cons (progress : Progress) (byte : UInt8) (rest : Bytes) :
    rebuild progress (byte :: rest) =
      match feed progress byte with
      | (.silent, after) => rebuild after rest
      | (.data next, after) => next :: rebuild after rest
      | (.complete, _) => []
      | (.broken, _) => [] := by
  cases progress with
  | waiting =>
      rw [rebuild, feed]
      split <;> rfl
  | group owed closes =>
      cases owed with
      | zero =>
          rw [rebuild, feed]
          split
          · rfl
          · cases closes <;> rfl
      | succ owed =>
          rw [rebuild, feed]
          split <;> rfl

/-- Once a frame has begun, the machine waits for another only when it has ended. -/
private theorem feed_waiting {progress : Progress} {byte : UInt8} {event : Event}
    (fed : feed progress byte = (event, .waiting)) :
    (progress = .waiting ∧ event = .silent) ∨ event = .complete ∨ event = .broken := by
  cases progress with
  | waiting =>
      rw [feed] at fed
      split at fed
      · cases fed
        exact .inl ⟨rfl, rfl⟩
      · cases fed
  | group owed closes =>
      cases owed with
      | zero =>
          rw [feed] at fed
          split at fed
          · cases fed
            exact .inr (.inl rfl)
          · cases fed
      | succ owed =>
          rw [feed] at fed
          split at fed
          · cases fed
            exact .inr (.inr rfl)
          · cases fed

/-- What has been rebuilt stands at the front of the buffer. -/
def holding (progress : Progress) (packet slack : Bytes) : Reader :=
  { progress := progress, buffer := packet ++ slack, written := packet.length }

section Hearing

variable {progress after : Progress} {packet slack : Bytes} {byte next : UInt8}

theorem rebuild_silent (fed : feed progress byte = (.silent, after)) (rest : Bytes) :
    rebuild progress (byte :: rest) = rebuild after rest := by
  rw [rebuild_cons, fed]

theorem rebuild_data (fed : feed progress byte = (.data next, after)) (rest : Bytes) :
    rebuild progress (byte :: rest) = next :: rebuild after rest := by
  rw [rebuild_cons, fed]

theorem rebuild_end {event : Event} (fed : feed progress byte = (event, after))
    (last : event = .complete ∨ event = .broken) (rest : Bytes) :
    rebuild progress (byte :: rest) = [] := by
  rw [rebuild_cons, fed]
  rcases last with rfl | rfl <;> rfl

private theorem hear?_silent (fed : feed progress byte = (.silent, after)) :
    (holding progress packet slack).hear? byte =
      some (.further (holding after packet slack)) := by
  simp [Reader.hear?, holding, fed]

private theorem hear?_data (fed : feed progress byte = (.data next, after)) (hole : UInt8) :
    (holding progress packet (hole :: slack)).hear? byte =
      some (.further (holding after (packet ++ [next]) slack)) := by
  have put : Stuffing.put? (packet ++ hole :: slack) packet.length next =
      some (packet ++ next :: slack) := Stuffing.put?_behind packet slack hole next
  simp [Reader.hear?, holding, fed, put]

private theorem hear?_data_full (fed : feed progress byte = (.data next, after)) :
    (holding progress packet []).hear? byte = none := by
  have full : Stuffing.put? (packet ++ []) packet.length next = none := by
    rw [List.append_nil, Stuffing.put?, if_neg (Nat.lt_irrefl packet.length)]
  simp only [Reader.hear?, holding, fed, full, Option.bind_eq_bind, Option.bind_none]

private theorem hear?_end {event : Event} (fed : feed progress byte = (event, after))
    (last : event = .complete ∨ event = .broken) :
    (holding progress packet slack).hear? byte = some (.ended packet) := by
  rcases last with rfl | rfl <;>
    simp [Reader.hear?, holding, fed]

end Hearing

/-- What is behind the packet so far is what is rebuilt from the bytes that come, if there is a
place for all of it. If there is not, the reader runs out of buffer. -/
theorem run?_holding (todo : Bytes) (progress : Progress) (packet slack : Bytes)
    (fresh : progress = .waiting → packet = []) :
    (holding progress packet slack).run? (todo ++ [delimiter]) =
      if (rebuild progress todo).length ≤ slack.length then
        some (packet ++ rebuild progress todo)
      else none := by
  induction todo generalizing progress packet slack with
  | nil =>
      rw [rebuild, List.length_nil, if_pos (Nat.zero_le slack.length)]
      cases progress with
      | waiting =>
          rw [fresh rfl]
          rfl
      | group owed closes =>
          have last : ∃ event, feed (.group owed closes) delimiter = (event, .waiting) := by
            cases owed <;> exact ⟨_, rfl⟩
          obtain ⟨event, fed⟩ := last
          have ends := (feed_waiting fed).resolve_left fun waits => by cases waits.1
          rw [List.nil_append, Reader.run?, hear?_end fed ends, List.append_nil]
          rfl
  | cons byte rest ih =>
      rw [List.cons_append, Reader.run?]
      cases fed : feed progress byte with
      | mk event after =>
          cases event with
          | silent =>
              have freshAfter : after = .waiting → packet = [] := by
                rintro rfl
                rcases feed_waiting fed with ⟨waits, _⟩ | impossible | impossible
                · exact fresh waits
                · cases impossible
                · cases impossible
              rw [hear?_silent fed, rebuild_silent fed]
              exact ih after packet slack freshAfter
          | data next =>
              rw [rebuild_data fed, List.length_cons]
              cases slack with
              | nil =>
                  rw [hear?_data_full fed, List.length_nil, if_neg (Nat.not_succ_le_zero _)]
                  rfl
              | cons hole later =>
                  have begun : after = .waiting → packet ++ [next] = [] := by
                    rintro rfl
                    rcases feed_waiting fed with ⟨_, impossible⟩ | impossible | impossible <;>
                      cases impossible
                  have run := ih after (packet ++ [next]) later begun
                  rw [List.append_assoc, List.singleton_append] at run
                  rw [hear?_data fed, List.length_cons]
                  simp only [Nat.add_le_add_iff_right]
                  exact run
          | complete =>
              rw [hear?_end fed (.inl rfl), rebuild_end fed (.inl rfl), List.append_nil,
                List.length_nil, if_pos (Nat.zero_le slack.length)]
              rfl
          | broken =>
              rw [hear?_end fed (.inr rfl), rebuild_end fed (.inr rfl), List.append_nil,
                List.length_nil, if_pos (Nat.zero_le slack.length)]
              rfl

/-- A byte that comes makes for one byte of the packet at most. -/
theorem rebuild_length_le (progress : Progress) (frame : Bytes) :
    (rebuild progress frame).length ≤ frame.length := by
  induction frame generalizing progress with
  | nil => exact Nat.le_refl 0
  | cons byte rest ih =>
      rw [List.length_cons]
      cases fed : feed progress byte with
      | mk event after =>
          cases event with
          | silent =>
              rw [rebuild_silent fed]
              exact Nat.le_succ_of_le (ih after)
          | data next =>
              rw [rebuild_data fed]
              exact Nat.succ_le_succ (ih after)
          | complete =>
              rw [rebuild_end fed (.inl rfl)]
              exact Nat.zero_le _
          | broken =>
              rw [rebuild_end fed (.inr rfl)]
              exact Nat.zero_le _

theorem run?_start (frame : Bytes) (size : Nat) :
    (start size).run? (withoutLead frame ++ [delimiter]) =
      if (decode frame).length ≤ size then some (decode frame) else none := by
  have run := run?_holding (withoutLead frame) .waiting [] (List.replicate size 0) fun _ => rfl
  rw [List.length_replicate] at run
  exact run

theorem decode_length_le (frame : Bytes) :
    (decode frame).length ≤ (withoutLead frame).length :=
  rebuild_length_le .waiting (withoutLead frame)

/-- The buffer is as long as the frame, and that is enough. -/
theorem read?_eq_decode (frame : Bytes) : read? frame = some (decode frame) := by
  rw [read?, run?_start, if_pos (decode_length_le frame)]

end Unstuffing

/-- A delimiter that is skipped anyway need not be taken off first. -/
theorem decode_eq_rebuild (frame : Bytes) : decode frame = rebuild .waiting frame := by
  cases frame with
  | nil => rfl
  | cons byte rest =>
      rw [decode, withoutLead, rebuild]
      by_cases lead : byte = delimiter
      · rw [if_pos lead, if_pos lead]
      · rw [if_neg lead, if_neg lead, rebuild, if_neg lead]

theorem decode_behind_delimiters (lead : Nat) (frame : Bytes) :
    decode (List.replicate lead delimiter ++ frame) = decode frame := by
  rw [decode_eq_rebuild, decode_eq_rebuild]
  induction lead with
  | zero => rfl
  | succ lead ih => rw [List.replicate_succ, List.cons_append, rebuild, if_pos rfl, ih]

/-- Inside a frame the next delimiter ends it, at the end of a group or not. -/
private theorem rebuild_group_append {frame : Bytes} (clean : delimiter ∉ frame) (owed : Nat)
    (closes : Bool) (rest : Bytes) :
    rebuild (.group owed closes) (frame ++ delimiter :: rest) =
      rebuild (.group owed closes) frame := by
  induction frame generalizing owed closes with
  | nil => exact rebuild_delimiter owed closes rest
  | cons byte later ih =>
      obtain ⟨different, cleanLater⟩ := List.ne_and_not_mem_of_not_mem_cons clean
      rw [List.cons_append]
      cases owed with
      | zero =>
          rw [rebuild, rebuild, if_neg different.symm, if_neg different.symm, Progress.opened,
            ih cleanLater]
      | succ owed =>
          rw [rebuild, rebuild, if_neg different.symm, if_neg different.symm, ih cleanLater]

theorem decode_append_delimiter {frame : Bytes} (filled : frame ≠ []) (clean : delimiter ∉ frame)
    (rest : Bytes) : decode (frame ++ delimiter :: rest) = decode frame := by
  obtain ⟨byte, later, rfl⟩ := List.exists_cons_of_ne_nil filled
  obtain ⟨different, cleanLater⟩ := List.ne_and_not_mem_of_not_mem_cons clean
  rw [decode_eq_rebuild, decode_eq_rebuild, List.cons_append, rebuild, rebuild,
    if_neg different.symm, if_neg different.symm, Progress.opened,
    rebuild_group_append cleanLater]

/-- A frame that has begun is read up to its delimiter, byte by byte or at once, behind any
number of delimiters and whatever follows. Where no frame begins behind the leading delimiter,
the next one ends nothing, and what follows is read in its place. -/
theorem reading_stops {frame : Bytes} (clean : delimiter ∉ frame) (lead : Nat) (rest : Bytes) :
    let line := List.replicate lead delimiter ++ (frame ++ delimiter :: rest)
    Unstuffing.read? line = some (decode line) ∧
      decode line = if frame = [] then decode rest else decode frame := by
  intro line
  refine ⟨Unstuffing.read?_eq_decode line, ?_⟩
  rw [decode_behind_delimiters]
  by_cases nothing : frame = []
  · rw [if_pos nothing, nothing, List.nil_append]
    exact decode_behind_delimiters 1 rest
  · rw [if_neg nothing, decode_append_delimiter nothing clean]

/-- The code announces five bytes and one comes. -/
theorem reading_stops_inside_group :
    delimiter ∉ ([6, 0x11] : Bytes) ∧
      Unstuffing.read? [0, 0, 0, 6, 0x11, 0, 0x22, 2, 0x33, 0] = some [0x11] := by
  have clean : delimiter ∉ ([6, 0x11] : Bytes) := by decide
  obtain ⟨read, stopped⟩ := reading_stops clean 3 [0x22, 2, 0x33, 0]
  have rebuilt : decode [6, 0x11] = [0x11] := by decide
  rw [if_neg (List.cons_ne_nil _ _), rebuilt] at stopped
  rw [stopped] at read
  exact ⟨clean, read⟩

/-- Nothing between two delimiters is no frame to stop behind. -/
theorem empty_frame_ends_nothing :
    ¬ ∀ frame rest : Bytes, delimiter ∉ frame →
      decode (delimiter :: (frame ++ delimiter :: rest)) = decode frame := by
  intro stops
  have stopped := stops [] [2, 0x11, 0] List.not_mem_nil
  have read : decode [0, 0, 2, 0x11, 0] = [0x11] := by decide
  cases read.symm.trans stopped

end Telemetry.Frame
