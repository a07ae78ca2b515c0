/-
A packet comes back from its frame, whichever delimiters the frame still has around it and
whatever follows them. The leading one can be missing, the trailing one as well if nothing
follows.
-/

import Telemetry.Proofs.Frame.Stuffing

namespace Telemetry.Frame

/-- Writing a packet in one pass and trimming what was written gives a body without a
delimiter, and the frame is that body between two of them. Reading gives the packet back
from the body alone, with either delimiter or with both, and whatever stands behind the
trailing one. -/
theorem round_trip :
    encode [] = [] ∧ decode [] = [] ∧
    ∀ packet : Bytes, packet ≠ [] →
      ∃ body, (Stuffing.write? packet).map withoutEmptyGroup = some body ∧
        encode packet = delimiter :: (body ++ [delimiter]) ∧
        delimiter ∉ body ∧
        decode body = packet ∧
        decode (delimiter :: body) = packet ∧
        ∀ rest : Bytes,
          decode (body ++ delimiter :: rest) = packet ∧
          decode (encode packet ++ rest) = packet := by
  refine ⟨rfl, rfl, ?_⟩
  intro packet filled
  obtain ⟨first, later, begins⟩ := List.exists_cons_of_ne_nil filled
  have layout := layout_body packet
  have framed : encode packet = delimiter :: (body packet ++ [delimiter]) := by
    rw [begins, encode]
  have led : decode (delimiter :: (body packet ++ [])) = packet :=
    layout.decode_delimited fun _ => rfl
  rw [List.append_nil] at led
  refine ⟨body packet, Stuffing.write?_withoutEmptyGroup filled, framed, layout.clean,
    decode_body packet, led, ?_⟩
  intro rest
  have stops : ∀ closes, rebuild (.group 0 closes) (delimiter :: rest) = [] :=
    fun closes => rebuild_delimiter 0 closes rest
  refine ⟨layout.decode_append stops, ?_⟩
  rw [framed, List.cons_append, List.append_assoc, List.singleton_append]
  exact layout.decode_delimited stops

/-- Behind a zero and a full group the buffer has a place left, and an empty group is written
there. -/
theorem round_trip_behind_full_group :
    let packet : Bytes := 0 :: List.replicate 254 0x5A
    let body : Bytes := 1 :: 0xFF :: List.replicate 254 0x5A
    Stuffing.write? packet = some (body ++ [1]) ∧ encode packet = 0 :: (body ++ [0]) ∧
      decode (encode packet ++ [3, 0, 7]) = packet := by
  intro packet expected
  have written : Stuffing.write? packet = some (expected ++ [1]) := by decide +kernel
  have trimmed : withoutEmptyGroup (expected ++ [1]) = expected := by decide +kernel
  obtain ⟨_, _, returns⟩ := round_trip
  obtain ⟨body, trims, framed, _, _, _, reads⟩ := returns packet (List.cons_ne_nil _ _)
  rw [written, Option.map_some, trimmed, Option.some.injEq] at trims
  rw [← trims] at framed
  exact ⟨written, framed, (reads [3, 0, 7]).2⟩

end Telemetry.Frame
