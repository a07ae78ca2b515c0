/-
What reading makes of a frame that is cut off or makes no sense. It rebuilds from the front
and takes nothing back, so the packet of a frame that is cut anywhere is the beginning of
what the whole frame comes to. The zero that a group stands for is rebuilt when the next code
comes and not before, or this would not hold of a cut between two groups.

The packet is shorter than the frame, but not by much: a byte is lost for the first code and
one for each code behind a full group. So nothing cuts a packet short but a delimiter and the
end of what was received, and no buffer that has a place for the packet is ever too small.
-/

import Telemetry.Proofs.Frame.Unstuffing

namespace Telemetry.Frame

open Unstuffing (feed rebuild_silent rebuild_data rebuild_end rebuild_length_le)

private theorem rebuild_prefix_append (progress : Progress) (front back : Bytes) :
    rebuild progress front <+: rebuild progress (front ++ back) := by
  induction front generalizing progress with
  | nil =>
      rw [rebuild]
      exact List.nil_prefix
  | cons byte rest ih =>
      rw [List.cons_append]
      cases fed : feed progress byte with
      | mk event after =>
          cases event with
          | silent =>
              rw [rebuild_silent fed, rebuild_silent fed]
              exact ih after
          | data next =>
              rw [rebuild_data fed, rebuild_data fed]
              exact List.prefix_cons_inj next |>.mpr (ih after)
          | complete =>
              rw [rebuild_end fed (.inl rfl)]
              exact List.nil_prefix
          | broken =>
              rw [rebuild_end fed (.inr rfl)]
              exact List.nil_prefix

theorem decode_prefix {front frame : Bytes} (cut : front <+: frame) :
    decode front <+: decode frame := by
  obtain ⟨back, rfl⟩ := cut
  rw [decode_eq_rebuild, decode_eq_rebuild]
  exact rebuild_prefix_append .waiting front back

/-- The first byte, a code or a delimiter, is not in the packet. -/
theorem decode_length_lt {frame : Bytes} (filled : frame ≠ []) :
    (decode frame).length < frame.length := by
  obtain ⟨byte, rest, rfl⟩ := List.exists_cons_of_ne_nil filled
  rw [decode_eq_rebuild, rebuild, List.length_cons]
  split
  · exact Nat.lt_succ_of_le (rebuild_length_le .waiting rest)
  · exact Nat.lt_succ_of_le (rebuild_length_le (.opened byte) rest)

/-- The bytes in front of the first delimiter that lies behind another byte. -/
def begun (frame : Bytes) : Bytes :=
  (frame.dropWhile (· = delimiter)).takeWhile (· ≠ delimiter)

private theorem begun_clean (frame : Bytes) : delimiter ∉ begun frame := by
  intro member
  have kept := List.all_eq_true.mp List.all_takeWhile delimiter member
  exact of_decide_eq_true kept rfl

private theorem decode_begun (frame : Bytes) : decode (begun frame) = decode frame := by
  induction frame with
  | nil => rfl
  | cons byte rest ih =>
      by_cases lead : byte = delimiter
      · have skipped : begun (byte :: rest) = begun rest := by
          rw [begun, List.dropWhile_cons_of_pos (by exact decide_eq_true lead)]
          rfl
        rw [skipped, ih, lead]
        exact (decode_behind_delimiters 1 rest).symm
      · have started : begun (byte :: rest) = (byte :: rest).takeWhile (· ≠ delimiter) := by
          rw [begun, List.dropWhile_cons_of_neg (by exact mt of_decide_eq_true lead)]
        have front : begun (byte :: rest) ≠ [] := by
          rw [started, List.takeWhile_cons_of_pos (by exact decide_eq_true lead)]
          exact List.cons_ne_nil _ _
        have whole : begun (byte :: rest) ++ (byte :: rest).dropWhile (· ≠ delimiter) =
            byte :: rest := by
          rw [started, List.takeWhile_append_dropWhile]
        cases behind : (byte :: rest).dropWhile (· ≠ delimiter) with
        | nil =>
            rw [behind, List.append_nil] at whole
            rw [whole]
        | cons next later =>
            have stopped := List.head_dropWhile_not (fun other => decide (other ≠ delimiter))
              (l := byte :: rest) (by rw [behind]; exact List.cons_ne_nil _ _)
            simp only [behind, List.head_cons, decide_eq_false_iff_not,
              Decidable.not_not] at stopped
            rw [behind, stopped] at whole
            rw [← whole, decode_append_delimiter front (begun_clean _), whole]

private theorem opened_full {byte : UInt8} (full : (byte != fullCode) = false) :
    byte.toNat - 1 = groupLimit := by
  have same : byte = fullCode := bne_eq_false_iff_eq.mp full
  rw [same]
  rfl

/-- Inside a frame a byte is one of the packet, or a code that stands for a zero, or the code
behind a full group. There is one such code for every group's worth of packet, with `credit`
bytes of the first group rebuilt already. -/
private theorem length_le_rebuild_group {frame : Bytes} (clean : delimiter ∉ frame) (owed : Nat)
    (closes : Bool) (credit : Nat) (fills : closes = false → groupLimit ≤ owed + credit) :
    let packet := rebuild (.group owed closes) frame
    frame.length ≤ packet.length + (packet.length + credit) / groupLimit := by
  change _ ≤ _ + (_ + credit) / 254
  change closes = false → 254 ≤ owed + credit at fills
  induction frame generalizing owed closes credit with
  | nil => exact Nat.zero_le _
  | cons byte rest ih =>
      obtain ⟨different, cleanRest⟩ := List.ne_and_not_mem_of_not_mem_cons clean
      rw [List.length_cons]
      cases owed with
      | zero =>
          have later := ih cleanRest (byte.toNat - 1) (byte != fullCode) 0 fun full =>
            Nat.le_of_eq (opened_full full).symm
          rw [rebuild, if_neg different.symm, Progress.opened]
          cases closes with
          | true =>
              rw [if_pos rfl, List.singleton_append, List.length_cons]
              omega
          | false =>
              have filled := fills rfl
              rw [if_neg Bool.false_ne_true, List.nil_append]
              omega
      | succ owed =>
          have later := ih cleanRest owed closes (credit + 1) fun unclosed => by
            have filled := fills unclosed
            omega
          rw [rebuild, if_neg different.symm, List.length_cons]
          omega

/-- A frame without delimiters loses a byte for its first code and one for every code behind a
full group. -/
theorem length_le_decode {frame : Bytes} (clean : delimiter ∉ frame) :
    frame.length ≤ (decode frame).length + 1 + (decode frame).length / groupLimit := by
  cases frame with
  | nil => exact Nat.zero_le _
  | cons byte rest =>
      obtain ⟨different, cleanRest⟩ := List.ne_and_not_mem_of_not_mem_cons clean
      have inside := length_le_rebuild_group cleanRest (byte.toNat - 1) (byte != fullCode) 0
        fun full => Nat.le_of_eq (opened_full full).symm
      rw [decode_eq_rebuild, rebuild, if_neg different.symm, Progress.opened, List.length_cons]
      simp only [Nat.add_zero] at inside
      omega

/-- A frame that is cut anywhere is read as the beginning of what the whole of it is read as.
The packet is shorter than the frame. A buffer is large enough exactly if it has a place for
every byte of the packet, which one of the frame's size has. And only delimiters and the end cut
a packet short: it comes from the bytes in front of the first delimiter behind them, and all but
one of these, and one for each full group of the packet, are in it. -/
theorem lenient_reading (frame : Bytes) :
    (∀ front, front <+: frame → decode front <+: decode frame) ∧
    (frame ≠ [] → (decode frame).length < frame.length) ∧
    (∀ size, (Unstuffing.start size).run? (withoutLead frame ++ [delimiter]) =
      if (decode frame).length ≤ size then some (decode frame) else none) ∧
    (decode frame).length ≤ (withoutLead frame).length ∧
    Unstuffing.read? frame = some (decode frame) ∧
    decode frame = decode (begun frame) ∧
    (begun frame).length ≤ (decode frame).length + 1 + (decode frame).length / groupLimit := by
  refine ⟨fun front => decode_prefix, decode_length_lt, Unstuffing.run?_start frame,
    Unstuffing.decode_length_le frame, Unstuffing.read?_eq_decode frame,
    (decode_begun frame).symm, ?_⟩
  rw [← decode_begun frame]
  exact length_le_decode (begun_clean frame)

/-- A frame of which the second code announces more than there is, cut behind that code. -/
theorem lenient_reading_of_cut :
    let frame : Bytes := [0, 3, 0x11, 0x22, 9, 0x33, 0, 2, 0x44]
    let front : Bytes := [0, 3, 0x11, 0x22, 9]
    front <+: frame ∧ frame ≠ [] ∧
      decode front = [0x11, 0x22, 0] ∧ decode frame = [0x11, 0x22, 0, 0x33] ∧
      decode front <+: decode frame ∧ (decode frame).length < frame.length ∧
      (Unstuffing.start 3).run? (withoutLead frame ++ [delimiter]) = none := by
  intro frame front
  have cut : front <+: frame := ⟨[0x33, 0, 2, 0x44], rfl⟩
  have filled : frame ≠ [] := List.cons_ne_nil _ _
  have whole : decode frame = [0x11, 0x22, 0, 0x33] := by decide
  obtain ⟨kept, shorter, sized, _⟩ := lenient_reading frame
  have crowded := sized 3
  rw [if_neg (by rw [whole]; decide)] at crowded
  exact ⟨cut, filled, by decide, whole, kept front cut, shorter filled, crowded⟩

end Telemetry.Frame
