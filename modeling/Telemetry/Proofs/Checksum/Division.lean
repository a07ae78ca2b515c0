/-
The check as division, one bit at a time. A byte string is taken as a number here,
its first bit the least significant, and absorbed from there.

Three facts carry everything: absorbing is linear in exclusive or, a step of the
register loses nothing, and a number that fits the register can be added to it at
once before the steps are taken. So two inputs are told apart by their difference,
and a difference that fits the register is never lost.
-/

import Mathlib.Algebra.Group.Nat.Defs
import Telemetry.Checksum

namespace Telemetry

theorem ofLittleEndian_lt_two_pow (bytes : Bytes) :
    ofLittleEndian bytes < 2 ^ (8 * bytes.length) := by
  rw [Nat.pow_mul]
  exact ofLittleEndian_lt bytes

namespace Checksum

private theorem bitStep_xor (left right : BitVec 32) :
    bitStep (left ^^^ right) = bitStep left ^^^ bitStep right := by
  unfold bitStep
  rw [BitVec.getLsbD_xor, BitVec.ushiftRight_xor_distrib]
  cases left.getLsbD 0 with
  | false =>
      cases right.getLsbD 0 with
      | false => rfl
      | true => exact BitVec.xor_assoc _ _ _
  | true =>
      cases right.getLsbD 0 with
      | false =>
          simp only [Bool.xor_false, if_true, Bool.false_eq_true, if_false]
          rw [BitVec.xor_assoc, BitVec.xor_comm (right >>> 1), ← BitVec.xor_assoc]
      | true =>
          -- Both sides divide, and the two generators cancel.
          simp only [Bool.xor_self, Bool.false_eq_true, if_false, if_true]
          rw [BitVec.xor_assoc (left >>> 1), BitVec.xor_comm (right >>> 1),
            ← BitVec.xor_assoc polynomial, BitVec.xor_self, BitVec.zero_xor]

/-- The generator has its top bit set, so a division can be told from a shift. -/
private theorem eq_zero_of_bitStep {register : BitVec 32} (vanishes : bitStep register = 0#32) :
    register = 0#32 := by
  unfold bitStep at vanishes
  cases low : register.getLsbD 0 with
  | true =>
      rw [if_pos low] at vanishes
      have top := congrArg (fun bits => BitVec.getLsbD bits 31) vanishes
      simp only [BitVec.getLsbD_xor, BitVec.getLsbD_ushiftRight] at top
      have beyond : register.getLsbD (1 + 31) = false := BitVec.getLsbD_of_ge _ _ (by decide)
      rw [beyond] at top
      exact absurd top (by decide)
  | false =>
      rw [if_neg (by rw [low]; decide)] at vanishes
      apply BitVec.eq_of_getLsbD_eq
      intro index inside
      cases index with
      | zero => rw [low, BitVec.getLsbD_zero]
      | succ below =>
          have shifted := congrArg (fun bits => BitVec.getLsbD bits below) vanishes
          simp only [BitVec.getLsbD_ushiftRight, BitVec.getLsbD_zero] at shifted
          rw [Nat.add_comm, shifted, BitVec.getLsbD_zero]

private theorem eq_zero_of_repeat_bitStep {count : Nat} {register : BitVec 32}
    (vanishes : Nat.repeat bitStep count register = 0#32) : register = 0#32 := by
  induction count with
  | zero => exact vanishes
  | succ count ih => exact ih (eq_zero_of_bitStep vanishes)

private theorem repeat_bitStep_succ (count : Nat) (register : BitVec 32) :
    Nat.repeat bitStep (count + 1) register = Nat.repeat bitStep count (bitStep register) := by
  induction count with
  | zero => rfl
  | succ count ih => rw [Nat.repeat, ih, Nat.repeat]

/-- Takes the `count` low bits of a number into the register, the least significant first. -/
def absorb : Nat → Nat → BitVec 32 → BitVec 32
  | 0, _, register => register
  | count + 1, value, register =>
      absorb count (value / 2) (bitStep (register ^^^ BitVec.ofNat 32 (value % 2)))

@[simp]
private theorem absorb_zero (count : Nat) : absorb count 0 0#32 = 0#32 := by
  induction count with
  | zero => rfl
  | succ count ih => exact ih

theorem absorb_xor (count left right : Nat) (start other : BitVec 32) :
    absorb count (left ^^^ right) (start ^^^ other) =
      absorb count left start ^^^ absorb count right other := by
  induction count generalizing left right start other with
  | zero => rfl
  | succ count ih =>
      have low : (left ^^^ right) % 2 = left % 2 ^^^ right % 2 := Nat.xor_mod_two_pow (n := 1)
      have exchanged (a b c d : BitVec 32) : a ^^^ b ^^^ (c ^^^ d) = a ^^^ c ^^^ (b ^^^ d) := by
        rw [BitVec.xor_assoc, ← BitVec.xor_assoc b, BitVec.xor_comm b c, BitVec.xor_assoc c,
          ← BitVec.xor_assoc]
      rw [absorb, absorb, absorb, Nat.xor_div_two, low, BitVec.ofNat_xor, exchanged, bitStep_xor,
        ih]

private theorem absorb_append {front : Nat} (width count back : Nat) (register : BitVec 32)
    (fits : front < 2 ^ width) :
    absorb (width + count) (front + 2 ^ width * back) register =
      absorb count back (absorb width front register) := by
  induction width generalizing front register with
  | zero =>
      have none : front = 0 := Nat.lt_one_iff.mp fits
      rw [none, Nat.zero_add, Nat.zero_add, Nat.pow_zero, Nat.one_mul, absorb]
  | succ width ih =>
      rw [Nat.pow_succ'] at fits ⊢
      have half : (front + 2 * 2 ^ width * back) / 2 = front / 2 + 2 ^ width * back := by
        rw [Nat.mul_assoc, Nat.add_mul_div_left _ _ (by decide)]
      have low : (front + 2 * 2 ^ width * back) % 2 = front % 2 := by
        rw [Nat.mul_assoc, Nat.add_mul_mod_self_left]
      rw [Nat.add_right_comm, absorb, half, low, ih _ (by omega), absorb]

/-- The low bit of a number decides whether the step divides; the others move down. -/
private theorem bitStep_ofNat {value : Nat} (fits : value < 2 ^ 32) :
    bitStep (BitVec.ofNat 32 value) =
      bitStep (BitVec.ofNat 32 (value % 2)) ^^^ BitVec.ofNat 32 (value / 2) := by
  have moved : BitVec.ofNat 32 value >>> 1 = BitVec.ofNat 32 (value / 2) := by
    apply BitVec.eq_of_toNat_eq
    rw [BitVec.toNat_ushiftRight, BitVec.toNat_ofNat, BitVec.toNat_ofNat,
      Nat.shiftRight_eq_div_pow, Nat.pow_one, Nat.mod_eq_of_lt fits, Nat.mod_eq_of_lt (by omega)]
  have low : (BitVec.ofNat 32 value).getLsbD 0 = decide (value % 2 = 1) := by
    rw [BitVec.getLsbD_ofNat, Nat.testBit_zero]
    rfl
  unfold bitStep
  rw [moved, low]
  rcases Nat.mod_two_eq_zero_or_one value with even | odd
  · rw [even]
    exact (BitVec.zero_xor).symm
  · rw [odd]
    exact BitVec.xor_comm _ _

theorem absorb_small {count value : Nat} (fits : value < 2 ^ count) (small : value < 2 ^ 32)
    (register : BitVec 32) :
    absorb count value register =
      Nat.repeat bitStep count (register ^^^ BitVec.ofNat 32 value) := by
  induction count generalizing value register with
  | zero =>
      have none : value = 0 := Nat.lt_one_iff.mp fits
      rw [none]
      exact BitVec.xor_zero.symm
  | succ count ih =>
      rw [Nat.pow_succ'] at fits
      rw [absorb, ih (by omega) (by omega), repeat_bitStep_succ, bitStep_xor, bitStep_xor register,
        bitStep_ofNat small, BitVec.xor_assoc]

private theorem byteStep_eq_absorb (register : BitVec 32) (byte : UInt8) :
    byteStep register byte = absorb 8 byte.toNat register := by
  have fits : byte.toNat < 2 ^ 8 := byte.toNat_lt
  have widened : byte.toBitVec.setWidth 32 = BitVec.ofNat 32 byte.toNat := by
    apply BitVec.eq_of_toNat_eq
    rw [BitVec.toNat_setWidth, BitVec.toNat_ofNat, UInt8.toNat_toBitVec]
  rw [absorb_small fits (Nat.lt_trans fits (by decide)), byteStep, widened]

theorem register_eq_absorb (start : BitVec 32) (bytes : Bytes) :
    register start bytes = absorb (8 * bytes.length) (ofLittleEndian bytes) start := by
  induction bytes generalizing start with
  | nil => rfl
  | cons byte rest ih =>
      have fits : byte.toNat < 2 ^ 8 := byte.toNat_lt
      have rejoined := absorb_append 8 (8 * rest.length) (ofLittleEndian rest) start fits
      rw [register, List.foldl_cons, byteStep_eq_absorb, List.length_cons, Nat.mul_succ,
        Nat.add_comm, ofLittleEndian]
      rw [rejoined]
      exact ih (absorb 8 byte.toNat start)

/-- A difference that fits the register is never lost, wherever it begins. -/
theorem absorb_shifted_ne_zero {count offset value : Nat} (small : value < 2 ^ 32)
    (present : value ≠ 0) (fits : 2 ^ offset * value < 2 ^ count) :
    absorb count (2 ^ offset * value) 0#32 ≠ 0#32 := by
  have inside : offset ≤ count := by
    apply Nat.le_of_lt
    apply (Nat.pow_lt_pow_iff_right (by decide : 1 < 2)).mp
    exact Nat.lt_of_le_of_lt (Nat.le_mul_of_pos_right _ (Nat.pos_of_ne_zero present)) fits
  obtain ⟨later, rfl⟩ := Nat.exists_eq_add_of_le inside
  rw [Nat.pow_add] at fits
  have room : value < 2 ^ later := Nat.lt_of_mul_lt_mul_left fits
  have begun := absorb_append offset later value 0#32 (Nat.two_pow_pos offset)
  rw [Nat.zero_add, absorb_zero, absorb_small room small, BitVec.zero_xor] at begun
  intro vanishes
  rw [begun] at vanishes
  have pattern := congrArg BitVec.toNat (eq_zero_of_repeat_bitStep vanishes)
  rw [BitVec.toNat_ofNat, Nat.mod_eq_of_lt small] at pattern
  exact present pattern

end Checksum

end Telemetry
