/-
Widening keeps the number. A pattern of single precision is read, and what it denotes is
written with double precision. That loses nothing: the significand has more places than it
needs and the exponents reach further on both sides, so even the smallest numbers, which
have fewer significant places, get all of theirs.

Two values denote one number if they have one sign and, brought to one exponent, one
significand. The sign counts for zeros as well.
-/

import Telemetry.Number

namespace Telemetry

namespace BinaryValue

/-- Both are no number, the same infinity, or the same number with the same sign. -/
def Same : BinaryValue → BinaryValue → Prop
  | .notANumber, .notANumber => True
  | .infinite left, .infinite right => left = right
  | .finite leftSign left leftExponent, .finite rightSign right rightExponent =>
      leftSign = rightSign ∧
        left * 2 ^ (leftExponent - rightExponent).toNat =
          right * 2 ^ (rightExponent - leftExponent).toNat
  | _, _ => False

theorem same_refl (value : BinaryValue) : Same value value := by
  cases value with
  | notANumber => exact True.intro
  | infinite negative => exact rfl
  | finite negative significand exponent => exact ⟨rfl, rfl⟩

private theorem same_zero (negative : Bool) (left right : Int) :
    Same (.finite negative 0 left) (.finite negative 0 right) := by
  refine ⟨rfl, ?_⟩
  rw [Nat.zero_mul, Nat.zero_mul]

private theorem same_shifted (negative : Bool) (significand shift : Nat) (exponent : Int) :
    Same (.finite negative significand exponent)
      (.finite negative (significand * 2 ^ shift) (exponent - shift)) := by
  have up : (exponent - (exponent - shift)).toNat = shift := by omega
  have down : (exponent - shift - exponent).toNat = 0 := by omega
  refine ⟨rfl, ?_⟩
  rw [up, down, Nat.pow_zero, Nat.mul_one]

end BinaryValue

namespace BinaryFormat

open BinaryValue (Same same_zero same_shifted)

section Packing

variable (format : BinaryFormat) (negative : Bool) {field fraction : Nat}

private theorem fraction_pack (small : fraction < 2 ^ format.fractionBits) :
    format.fraction (format.pack negative field fraction) = fraction := by
  rw [BinaryFormat.fraction, pack, Nat.mul_add_mod_self_right, Nat.mod_eq_of_lt small]

private theorem pack_div (small : fraction < 2 ^ format.fractionBits) :
    format.pack negative field fraction / 2 ^ format.fractionBits =
      (if negative then 2 ^ format.exponentBits else 0) + field := by
  rw [pack, Nat.add_comm, Nat.add_mul_div_right _ _ (Nat.two_pow_pos _),
    Nat.div_eq_of_lt small, Nat.zero_add]

private theorem exponentField_pack (small : fraction < 2 ^ format.fractionBits)
    (inside : field < 2 ^ format.exponentBits) :
    format.exponentField (format.pack negative field fraction) = field := by
  rw [exponentField, pack_div format negative small]
  cases negative with
  | false => rw [if_neg Bool.false_ne_true, Nat.zero_add, Nat.mod_eq_of_lt inside]
  | true => rw [if_pos rfl, Nat.add_mod_left, Nat.mod_eq_of_lt inside]

private theorem isNegative_pack (small : fraction < 2 ^ format.fractionBits)
    (inside : field < 2 ^ format.exponentBits) :
    format.isNegative (format.pack negative field fraction) = negative := by
  rw [isNegative, Nat.pow_add, ← Nat.div_div_eq_div_mul, pack_div format negative small]
  cases negative with
  | false =>
      rw [if_neg Bool.false_ne_true, Nat.zero_add, Nat.div_eq_of_lt inside]
      rfl
  | true =>
      rw [if_pos rfl, Nat.add_div_left _ (Nat.two_pow_pos _), Nat.div_eq_of_lt inside]
      rfl

private theorem pack_lt (small : fraction < 2 ^ format.fractionBits)
    (inside : field < 2 ^ format.exponentBits) :
    format.pack negative field fraction <
      2 ^ (1 + format.exponentBits + format.fractionBits) := by
  have top : (if negative then 2 ^ format.exponentBits else 0) + field <
      2 ^ (1 + format.exponentBits) := by
    rw [Nat.pow_add, Nat.pow_one]
    split <;> omega
  rw [← pack_div format negative small] at top
  rw [Nat.pow_add, ← Nat.div_lt_iff_lt_mul (Nat.two_pow_pos _)]
  exact top

theorem decode_pack (small : fraction < 2 ^ format.fractionBits)
    (inside : field < 2 ^ format.exponentBits) :
    format.decode (format.pack negative field fraction) =
      if field = 2 ^ format.exponentBits - 1 then
        if fraction = 0 then .infinite negative else .notANumber
      else if field = 0 then .finite negative fraction (format.scale 1)
      else .finite negative (2 ^ format.fractionBits + fraction) (format.scale field) := by
  simp [decode, fraction_pack format negative small,
    exponentField_pack format negative small inside, isNegative_pack format negative small inside]

end Packing

/-- The format has a pattern for the value, and one with all its places unless it is zero. -/
def Holds (format : BinaryFormat) : BinaryValue → Prop
  | .notANumber => True
  | .infinite _ => True
  | .finite _ significand exponent =>
      significand = 0 ∨
        (significand.log2 ≤ format.fractionBits ∧
          0 < exponent + significand.log2 + format.bias ∧
          exponent + significand.log2 + format.bias < 2 ^ format.exponentBits - 1)

/-- The fields a number that is not zero is written to. -/
private theorem exists_fields {format : BinaryFormat} {negative : Bool} {significand : Nat}
    {exponent : Int}
    (positive : significand ≠ 0) (holds : format.Holds (.finite negative significand exponent)) :
    ∃ field fraction, field < 2 ^ format.exponentBits - 1 ∧ 0 < field ∧
      fraction < 2 ^ format.fractionBits ∧
      format.encode (.finite negative significand exponent) =
        format.pack negative field fraction ∧
      2 ^ format.fractionBits + fraction =
        significand * 2 ^ (format.fractionBits - significand.log2) ∧
      format.scale field = exponent - (format.fractionBits - significand.log2 : Nat) := by
  obtain ⟨fits, low, high⟩ := holds.resolve_left positive
  obtain ⟨shift, places⟩ := Nat.exists_eq_add_of_le fits
  have spare : format.fractionBits - significand.log2 = shift := by omega
  have atLeast : 2 ^ format.fractionBits ≤ significand * 2 ^ shift := by
    rw [places, Nat.pow_add]
    exact Nat.mul_le_mul_right _ (Nat.log2_self_le positive)
  have below : significand * 2 ^ shift < 2 ^ format.fractionBits * 2 := by
    rw [← Nat.pow_succ, places, Nat.succ_eq_add_one, Nat.add_right_comm, Nat.pow_add]
    exact Nat.mul_lt_mul_of_pos_right Nat.lt_log2_self (Nat.two_pow_pos shift)
  have cast : ((2 ^ format.exponentBits : Nat) : Int) = 2 ^ format.exponentBits := by
    rw [Int.natCast_pow]
    rfl
  rw [spare]
  refine ⟨(exponent - shift + format.bias + format.fractionBits).toNat,
    significand * 2 ^ shift - 2 ^ format.fractionBits, ?_, ?_, ?_, ?_, ?_, ?_⟩
  · omega
  · omega
  · omega
  · rw [encode, if_neg positive]
    simp [spare]
  · omega
  · rw [scale, Int.toNat_of_nonneg (by omega)]
    omega

/-- Writing a value that the format holds and reading it again is reading the same value. -/
theorem same_decode_encode {format : BinaryFormat} (fractions : 0 < format.fractionBits)
    (exponents : 0 < format.exponentBits) {value : BinaryValue} (holds : format.Holds value) :
    Same value (format.decode (format.encode value)) := by
  have many : 1 < 2 ^ format.exponentBits := Nat.one_lt_two_pow (Nat.ne_of_gt exponents)
  have last : 2 ^ format.exponentBits - 1 < 2 ^ format.exponentBits := by omega
  cases value with
  | notANumber =>
      have half : 2 ^ (format.fractionBits - 1) < 2 ^ format.fractionBits :=
        Nat.pow_lt_pow_right (by omega) (by omega)
      rw [encode, decode_pack format false half last, if_pos rfl,
        if_neg (Nat.ne_of_gt (Nat.two_pow_pos _))]
      exact True.intro
  | infinite negative =>
      rw [encode, decode_pack format negative (Nat.two_pow_pos _) last, if_pos rfl, if_pos rfl]
      exact rfl
  | finite negative significand exponent =>
      by_cases zero : significand = 0
      · rw [zero, encode, if_pos rfl,
          decode_pack format negative (Nat.two_pow_pos _) (Nat.two_pow_pos _),
          if_neg (by omega), if_pos rfl]
        exact same_zero negative exponent _
      · obtain ⟨field, fraction, inside, positive, small, written, whole, scaled⟩ :=
          exists_fields zero holds
        rw [written, decode_pack format negative small (by omega), if_neg (by omega),
          if_neg (by omega), whole, scaled]
        exact same_shifted negative significand _ exponent

private theorem encode_lt {format : BinaryFormat} (fractions : 0 < format.fractionBits)
    (exponents : 0 < format.exponentBits) {value : BinaryValue} (holds : format.Holds value) :
    format.encode value < 2 ^ (1 + format.exponentBits + format.fractionBits) := by
  have many : 1 < 2 ^ format.exponentBits := Nat.one_lt_two_pow (Nat.ne_of_gt exponents)
  have last : 2 ^ format.exponentBits - 1 < 2 ^ format.exponentBits := by omega
  cases value with
  | notANumber =>
      have half : 2 ^ (format.fractionBits - 1) < 2 ^ format.fractionBits :=
        Nat.pow_lt_pow_right (by omega) (by omega)
      exact pack_lt format false half last
  | infinite negative => exact pack_lt format negative (Nat.two_pow_pos _) last
  | finite negative significand exponent =>
      by_cases zero : significand = 0
      · rw [zero, encode, if_pos rfl]
        exact pack_lt format negative (Nat.two_pow_pos _) (Nat.two_pow_pos _)
      · obtain ⟨field, fraction, inside, _, small, written, _⟩ := exists_fields zero holds
        rw [written]
        exact pack_lt format negative small (by omega)

/-- What single precision denotes has at most 24 significant places and an exponent between
-149 and 104. -/
theorem double_holds_single (pattern : Nat) : double.Holds (single.decode pattern) := by
  have holds : ∀ (negative : Bool) (significand : Nat) (exponent : Int), significand < 2 ^ 24 →
      -149 ≤ exponent → exponent ≤ 104 →
      double.Holds (.finite negative significand exponent) := by
    intro negative significand exponent places low high
    by_cases zero : significand = 0
    · exact .inl zero
    · have few : significand.log2 < 24 := (Nat.log2_lt zero).mpr places
      refine .inr ⟨?_, ?_, ?_⟩
      · change significand.log2 ≤ 52
        omega
      · change 0 < exponent + significand.log2 + 1023
        omega
      · change exponent + significand.log2 + 1023 < 2047
        omega
  have small : single.fraction pattern < 2 ^ 23 := Nat.mod_lt _ (Nat.two_pow_pos 23)
  have inside : single.exponentField pattern < 2 ^ 8 := Nat.mod_lt _ (Nat.two_pow_pos 8)
  simp only [decode]
  split
  · split <;> exact True.intro
  · split
    · exact holds _ _ _ (by omega) (by decide) (by decide)
    · next notLast notFirst =>
        have scaled : single.scale (single.exponentField pattern) =
            single.exponentField pattern - 150 := by
          change (_ : Int) - 127 - 23 = _
          omega
        have top : single.fractionBits = 23 := rfl
        have last : 2 ^ single.exponentBits = 256 := rfl
        rw [scaled, top]
        rw [last] at notLast
        exact holds _ _ _ (by omega) (by omega) (by omega)

end BinaryFormat

theorem same_widen (pattern : Nat) :
    BinaryValue.Same (BinaryFormat.single.decode pattern)
      (BinaryFormat.double.decode (widen pattern)) :=
  BinaryFormat.same_decode_encode (by decide) (by decide)
    (BinaryFormat.double_holds_single pattern)

theorem widen_lt (pattern : Nat) : widen pattern < 2 ^ (64 : Nat) :=
  BinaryFormat.encode_lt (by decide) (by decide) (BinaryFormat.double_holds_single pattern)

end Telemetry
