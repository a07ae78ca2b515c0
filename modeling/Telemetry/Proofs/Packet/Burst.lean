/-
A seal tells when a packet was damaged in one place. Whatever lies before and behind
it, and whether or not it reaches into the seal itself, a change within 32 bits in a
row leaves a packet of the same length that is refused.

The seal of a packet makes the register end in the same pattern for every packet that
is valid, so two valid packets of one length differ by something the check takes no
notice of; and it takes notice of everything that fits its register.
-/

import Telemetry.Packet.Seal
import Telemetry.Proofs.Checksum.Division

namespace Telemetry

/-- A bit of a byte string: the bytes in order, each from its least significant bit on.
There are none set behind the end. -/
def bitAt (bytes : Bytes) (index : Nat) : Bool :=
  (bytes.getD (index / 8) 0).toBitVec.getLsbD (index % 8)

private theorem bitAt_of_le {bytes : Bytes} {index : Nat} (beyond : 8 * bytes.length ≤ index) :
    bitAt bytes index = false := by
  have missing : bytes.length ≤ index / 8 := by omega
  rw [bitAt, List.getD_eq_getElem?_getD, List.getElem?_eq_none missing, Option.getD_none]
  exact BitVec.getLsbD_zero

theorem testBit_ofLittleEndian (bytes : Bytes) (index : Nat) :
    (ofLittleEndian bytes).testBit index = bitAt bytes index := by
  induction bytes generalizing index with
  | nil =>
      rw [ofLittleEndian, Nat.zero_testBit, bitAt, List.getD_nil]
      exact (BitVec.getLsbD_zero).symm
  | cons byte rest ih =>
      have fits : byte.toNat < 2 ^ 8 := byte.toNat_lt
      have split := Nat.testBit_two_pow_mul_add (ofLittleEndian rest) fits index
      rw [ofLittleEndian, Nat.add_comm, split]
      by_cases here : index < 8
      · rw [if_pos here, bitAt, Nat.div_eq_of_lt here, Nat.mod_eq_of_lt here]
        rfl
      · have quotient : index / 8 = (index - 8) / 8 + 1 := by omega
        have remainder : (index - 8) % 8 = index % 8 := by omega
        rw [if_neg here, ih, bitAt, bitAt, quotient, remainder, List.getD_cons_succ]

theorem ofLittleEndian_injective {left right : Bytes} (sameLength : left.length = right.length)
    (same : ofLittleEndian left = ofLittleEndian right) : left = right := by
  rw [← littleEndian_ofLittleEndian left, ← littleEndian_ofLittleEndian right, sameLength, same]

/-- A number whose bits are all set within 32 places in a row is a shifted number of 32
bits. -/
private theorem exists_shifted_of_window {value start : Nat}
    (window : ∀ index, value.testBit index = true → start ≤ index ∧ index < start + 32) :
    ∃ low, low < 2 ^ 32 ∧ value = 2 ^ start * low := by
  have small : value >>> start < 2 ^ 32 := by
    apply Nat.lt_pow_two_of_testBit
    intro index beyond
    rw [Nat.testBit_shiftRight]
    cases set : value.testBit (start + index) with
    | false => rfl
    | true =>
        have inside := window (start + index) set
        omega
  refine ⟨value >>> start, small, ?_⟩
  apply Nat.eq_of_testBit_eq
  intro index
  rw [Nat.testBit_two_pow_mul, Nat.testBit_shiftRight]
  by_cases early : start ≤ index
  · rw [Nat.add_sub_of_le early, decide_eq_true early, Bool.true_and]
  · rw [decide_eq_false early, Bool.false_and]
    cases set : value.testBit index with
    | false => rfl
    | true => exact absurd (window index set).1 early

namespace Packet

open Checksum

/-- What the register holds behind a valid packet does not depend on the packet. -/
private theorem register_of_valid {packet : Bytes} (valid : validity packet = .valid) :
    register (BitVec.allOnes 32) packet = Nat.repeat bitStep 32 (BitVec.allOnes 32) := by
  unfold validity at valid
  split at valid
  · cases valid
  · next large =>
      split at valid
      · next agrees =>
          have size : (trailer packet).length = Checksum.size := by
            have minimum : minimumSize = 1 + Checksum.size := rfl
            rw [trailer, List.length_drop]
            omega
          have written : ofLittleEndian (trailer packet) < 2 ^ 32 := by
            have bound := ofLittleEndian_lt_two_pow (trailer packet)
            rw [size] at bound
            exact bound
          have steps : 8 * (trailer packet).length = 32 := by rw [size, Checksum.size]
          have cancels : register (BitVec.allOnes 32) (body packet) ^^^
              BitVec.ofNat 32 (ofLittleEndian (trailer packet)) = BitVec.allOnes 32 := by
            rw [← agrees, ofBytes, ← BitVec.not_xor_right, BitVec.xor_self, BitVec.not_zero]
          calc register (BitVec.allOnes 32) packet
              = register (BitVec.allOnes 32) (body packet ++ trailer packet) := by
                rw [body, trailer, List.take_append_drop]
            _ = absorb 32 (ofLittleEndian (trailer packet))
                  (register (BitVec.allOnes 32) (body packet)) := by
                rw [register_append, register_eq_absorb _ (trailer packet), steps]
            _ = Nat.repeat bitStep 32 (BitVec.allOnes 32) := by
                rw [absorb_small written written, cancels]
      · cases valid

/-- Any change of a valid packet within 32 bits in a row is noticed, the seal's own bits
included. -/
theorem validity_of_burst {packet received : Bytes} {start : Nat}
    (valid : validity packet = .valid) (sameLength : received.length = packet.length)
    (different : received ≠ packet)
    (burst : ∀ index, bitAt received index ≠ bitAt packet index →
      start ≤ index ∧ index < start + 32) : validity received = .badChecksum := by
  have large : ¬ received.length < minimumSize := by
    intro short
    rw [validity, ← sameLength, if_pos short] at valid
    cases valid
  cases outcome : validity received with
  | badChecksum => rfl
  | tooSmall =>
      rw [validity, if_neg large] at outcome
      split at outcome <;> cases outcome
  | valid =>
      let difference := ofLittleEndian received ^^^ ofLittleEndian packet
      have window : ∀ index, difference.testBit index = true →
          start ≤ index ∧ index < start + 32 := by
        intro index set
        apply burst index
        rw [Nat.testBit_xor, testBit_ofLittleEndian, testBit_ofLittleEndian, bne_iff_ne] at set
        exact set
      obtain ⟨low, small, shifted⟩ := exists_shifted_of_window window
      have present : low ≠ 0 := by
        intro none
        rw [none, Nat.mul_zero] at shifted
        have same := congrArg (· ^^^ ofLittleEndian packet) shifted
        simp only [difference, Nat.xor_assoc, Nat.xor_self, Nat.xor_zero, Nat.zero_xor] at same
        exact different (ofLittleEndian_injective sameLength same)
      have bounded : difference < 2 ^ (8 * packet.length) := by
        apply Nat.xor_lt_two_pow
        · rw [← sameLength]
          exact ofLittleEndian_lt_two_pow received
        · exact ofLittleEndian_lt_two_pow packet
      have unnoticed : absorb (8 * packet.length) difference 0#32 = 0#32 := by
        have both := absorb_xor (8 * packet.length) (ofLittleEndian received)
          (ofLittleEndian packet) (BitVec.allOnes 32) (BitVec.allOnes 32)
        rw [← register_eq_absorb _ packet, ← sameLength, ← register_eq_absorb _ received,
          register_of_valid outcome, register_of_valid valid, BitVec.xor_self,
          BitVec.xor_self] at both
        rw [← sameLength]
        exact both
      rw [shifted] at bounded unnoticed
      exact absurd unnoticed (absorb_shifted_ne_zero small present bounded)

/-- Thirty-two bits, the first four in the body and the others in the seal, are flipped. -/
theorem validity_of_burst_across_seal :
    let packet : Bytes := sealed [0x80, 3, 7]
    let received : Bytes := (packet.take 2).append
      ((packet.drop 2).zipWith (· ^^^ ·) [0xF0, 0xFF, 0xFF, 0xFF, 0x0F])
    validity packet = .valid ∧ received.length = packet.length ∧ received ≠ packet ∧
      (∀ index, bitAt received index ≠ bitAt packet index → 20 ≤ index ∧ index < 20 + 32) ∧
      validity received = .badChecksum := by
  intro packet received
  have valid : validity packet = .valid := by decide +kernel
  have sameLength : received.length = packet.length := by decide +kernel
  have different : received ≠ packet := by decide +kernel
  have burst : ∀ index, bitAt received index ≠ bitAt packet index →
      20 ≤ index ∧ index < 20 + 32 := by
    intro index changed
    have inside : ∀ index < 56, bitAt received index ≠ bitAt packet index →
        20 ≤ index ∧ index < 20 + 32 := by
      decide +kernel
    by_cases early : index < 56
    · exact inside index early changed
    · have size : packet.length = 7 := by decide +kernel
      have packetEnds : 8 * packet.length ≤ index := by omega
      have receivedEnds : 8 * received.length ≤ index := by omega
      rw [bitAt_of_le packetEnds, bitAt_of_le receivedEnds] at changed
      exact absurd rfl changed
  exact ⟨valid, sameLength, different, burst,
    validity_of_burst valid sameLength different burst⟩

end Packet

end Telemetry
