/-
How large a packet can be. A frame without its delimiters is longer than its packet, by one
byte at least, and by one for each 254 bytes, begun ones counted, at most. A device refuses
a packet for its size exactly if a framer at the other end would give up its frame, so what
would be lost on the way is refused where that can be noticed.
-/

import Telemetry.Proofs.Framer.Delivery
import Telemetry.Proofs.Framer.Splitting

namespace Telemetry

namespace Framer

/-- Bytes that are no delimiters join the open run, which may become too long. -/
private theorem standing_push (limit dropped : Nat) (run more : Bytes)
    (clean : Frame.delimiter ∉ more) :
    (standing limit dropped run).push more = (standing limit dropped (run ++ more), []) := by
  induction more generalizing run with
  | nil => rw [push, List.append_nil]
  | cons byte rest ih =>
      obtain ⟨different, cleanRest⟩ := List.ne_and_not_mem_of_not_mem_cons clean
      have later := ih (run ++ [byte]) cleanRest
      rw [List.append_assoc, List.singleton_append] at later
      rw [push, step, if_neg different.symm, standing_extend]
      simp [later]

end Framer

namespace SerialDevice

/-- A framer at which nothing has come in yet gives up a frame that is too long. -/
private theorem push_encode_of_long {packet : Bytes} (filled : packet ≠ [])
    (long : Framer.standardLimit < framedSize packet) :
    Framer.standard.push (Frame.encode packet) = ({ Framer.standard with dropped := 1 }, []) := by
  rw [framedSize_eq filled] at long
  have run := Framer.standing_push Framer.standardLimit 0 [] (Frame.body packet)
    (Frame.layout_body packet).clean
  have skips : Framer.standing Framer.standardLimit 0 (Frame.body packet) =
      { Framer.standard with skipping := true, dropped := 1 } :=
    if_neg (Nat.not_le.mpr long)
  rw [List.nil_append, skips, Framer.standing_nil] at run
  have delimited : Framer.standard.push (Frame.body packet ++ [Frame.delimiter]) =
      ({ Framer.standard with dropped := 1 }, []) := by
    rw [Framer.push_append]
    unfold Framer.standard Framer.empty
    rw [run]
    rfl
  have blank : Framer.standard.reset = Framer.standard := rfl
  rw [Frame.encode_eq filled, Framer.push_delimiter, blank, delimited]
  rfl

theorem send_tooLarge_iff (device : SerialDevice) (packet : Bytes) (size : Nat) :
    (device.send packet).1 = .error (.frameTooLarge size) ↔
      Framer.standardLimit < framedSize packet ∧ size = framedSize packet := by
  unfold send
  by_cases long : Framer.standardLimit < framedSize packet
  · rw [if_pos long]
    constructor
    · intro refused
      cases refused
      exact ⟨long, rfl⟩
    · rintro ⟨_, rfl⟩
      rfl
  · rw [if_neg long]
    constructor
    · intro refused
      split at refused
      · cases refused
      · split at refused <;> cases refused
    · rintro ⟨exceeds, _⟩
      exact absurd exceeds long

/-- A framer gives up a frame exactly if it is longer than it takes. -/
theorem given_up_iff {packet : Bytes} (filled : packet ≠ []) :
    (Framer.standard.push (Frame.encode packet)).2 = [] ∧
        (Framer.standard.push (Frame.encode packet)).1.dropped = 1 ↔
      Framer.standardLimit < framedSize packet := by
  constructor
  · rintro ⟨nothing, _⟩
    apply Nat.lt_of_not_le
    intro fits
    rw [Framer.push_encode filled fits] at nothing
    cases nothing
  · intro long
    rw [push_encode_of_long filled long]
    exact ⟨rfl, rfl⟩

theorem framedSize_bounds {packet : Bytes} (filled : packet ≠ []) :
    packet.length + 1 ≤ framedSize packet ∧
      framedSize packet ≤ packet.length + (packet.length + 253) / 254 := by
  have layout := Frame.layout_body packet
  have below := layout.lt_length
  have above := layout.length_le
  have positive := List.length_pos_iff.mpr filled
  rw [framedSize_eq filled]
  omega

/-- A packet is refused for its size exactly if a framer that has taken nothing yet gives up its
frame, whatever waits in the queue, and the size it is refused for is that of the frame
without its delimiters. This size exceeds the packet by one byte at least and by one for
each 254 bytes at most, so 4079 bytes always pass, and 4096 never do. -/
theorem size_limit :
    (∀ packet : Bytes, packet ≠ [] →
      (∀ (device : SerialDevice) size,
        (device.send packet).1 = .error (.frameTooLarge size) ↔
          ((Framer.standard.push (Frame.encode packet)).2 = [] ∧
            (Framer.standard.push (Frame.encode packet)).1.dropped = 1) ∧
          size = (Frame.encode packet).length - 2) ∧
      packet.length + 1 ≤ (Frame.encode packet).length - 2 ∧
      (Frame.encode packet).length - 2 ≤ packet.length + (packet.length + 253) / 254) ∧
    (∀ packet : Bytes, packet.length ≤ 4079 → ∀ (device : SerialDevice) size,
      (device.send packet).1 ≠ .error (.frameTooLarge size)) ∧
    ∀ packet : Bytes, 4096 ≤ packet.length → ∀ device : SerialDevice,
      (device.send packet).1 = .error (.frameTooLarge ((Frame.encode packet).length - 2)) := by
  have limit : Framer.standardLimit = 4096 := rfl
  refine ⟨?_, ?_, ?_⟩
  · intro packet filled
    refine ⟨?_, framedSize_bounds filled⟩
    intro device size
    rw [given_up_iff filled]
    exact device.send_tooLarge_iff packet size
  · intro packet few device size refused
    obtain ⟨long, _⟩ := (device.send_tooLarge_iff packet size).mp refused
    cases packet with
    | nil => exact absurd long (Nat.not_lt_zero Framer.standardLimit)
    | cons byte rest =>
        have bounds := framedSize_bounds (List.cons_ne_nil byte rest)
        omega
  · intro packet many device
    have filled : packet ≠ [] := by
      rintro rfl
      cases many
    have bounds := framedSize_bounds filled
    exact (device.send_tooLarge_iff packet _).mpr ⟨by omega, rfl⟩

/-- Zeros alone, as many as are refused at a device whose queue is full and whose line is
gone, and the longest packet that always passes. -/
theorem size_limit_of_long_packets :
    let zeros : Bytes := List.replicate 4096 0
    let longest : Bytes := List.replicate 4079 0x5A
    let device : SerialDevice := { depth := 1, queue := [[0, 1, 0]], stopped := true }
    zeros ≠ [] ∧ (Framer.standard.push (Frame.encode zeros)).1.dropped = 1 ∧
      longest.length ≤ 4079 ∧ (device.send longest).1 = .error .closed := by
  intro zeros longest device
  obtain ⟨agrees, passes, refuses⟩ := size_limit
  have filled : zeros ≠ [] := List.cons_ne_nil _ _
  have many : 4096 ≤ zeros.length := Nat.le_of_eq List.length_replicate.symm
  have few : longest.length ≤ 4079 := Nat.le_of_eq List.length_replicate
  have gaveUp := ((agrees zeros filled).1 device _).mp (refuses zeros many device)
  have short : ¬ Framer.standardLimit < framedSize longest :=
    fun long => passes longest few device _ ((device.send_tooLarge_iff longest _).mpr ⟨long, rfl⟩)
  refine ⟨filled, gaveUp.1.2, few, ?_⟩
  rw [send, if_neg short]
  rfl

end SerialDevice

end Telemetry
