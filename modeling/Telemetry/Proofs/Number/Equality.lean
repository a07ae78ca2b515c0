/-
When two numbers are equal. Patterns are compared by what they denote: a rational number or one
of the two infinities. A NaN denotes nothing, so it equals nothing, itself included, and both
zeros denote zero.

That the comparison need not look further than significand and exponent is due to how values are
stored. The significand is as long as the format allows, or else the exponent is the least there
is, so no number is stored in two ways but for the sign of zero.
-/

import Mathlib.Algebra.Order.Field.Power
import Mathlib.Algebra.Order.Ring.WithTop
import Mathlib.Data.Rat.Cast.Order
import Mathlib.Tactic.Linarith
import Telemetry.Number

namespace Telemetry

namespace BinaryValue

/-- A rational number, negative or positive infinity, or nothing. -/
def denoted? : BinaryValue → Option (WithBot (WithTop ℚ))
  | .notANumber => none
  | .infinite negative => some (if negative then ⊥ else ⊤)
  | .finite negative significand exponent =>
      let magnitude : ℚ := significand * 2 ^ exponent
      some ((if negative then -magnitude else magnitude : ℚ) : WithTop ℚ)

/-- A value that can be read from a pattern of the format. -/
def Stored (format : BinaryFormat) : BinaryValue → Prop
  | .notANumber => True
  | .infinite _ => True
  | .finite _ significand exponent =>
      significand < 2 ^ (format.fractionBits + 1) ∧ format.scale 1 ≤ exponent ∧
        (2 ^ format.fractionBits ≤ significand ∨ exponent = format.scale 1)

end BinaryValue

private theorem BinaryFormat.stored_decode (format : BinaryFormat) (pattern : Nat) :
    (format.decode pattern).Stored format := by
  have small : format.fraction pattern < 2 ^ format.fractionBits :=
    Nat.mod_lt _ (Nat.two_pow_pos _)
  simp only [decode]
  split
  · split <;> exact True.intro
  · split
    · refine ⟨?_, Int.le_refl _, .inr rfl⟩
      rw [Nat.pow_succ]
      omega
    · next unscaled =>
        refine ⟨?_, ?_, .inl (Nat.le_add_right _ _)⟩
        · rw [Nat.pow_succ]
          omega
        · simp only [scale]
          omega

namespace BinaryValue

section Finite

variable {format : BinaryFormat} {negative other : Bool} {left right : Nat}
  {exponent higher : Int}

/-- The longer significand of two would not fit. -/
private theorem eq_of_magnitude_of_le (stored : Stored format (.finite negative left exponent))
    (storedOther : Stored format (.finite other right higher)) (ordered : exponent ≤ higher)
    (same : (left : ℚ) * 2 ^ exponent = right * 2 ^ higher) :
    left = right ∧ exponent = higher := by
  obtain ⟨shift, rfl⟩ := Int.le.dest ordered
  have scaled : (left : ℚ) = right * 2 ^ shift := by
    rw [zpow_add₀ two_ne_zero, zpow_natCast, mul_comm (2 ^ exponent), ← mul_assoc] at same
    exact mul_right_cancel₀ (zpow_ne_zero _ two_ne_zero) same
  have whole : left = right * 2 ^ shift := by exact_mod_cast scaled
  have unshifted : shift = 0 := by
    by_contra shifted
    obtain ⟨small, least, -⟩ := stored
    obtain ⟨-, -, long | lowest⟩ := storedOther
    · have grown : 2 ^ (format.fractionBits + 1) ≤ left := by
        rw [whole, Nat.pow_succ]
        exact Nat.mul_le_mul long (Nat.le_self_pow shifted 2)
      omega
    · omega
  subst unshifted
  rw [Nat.pow_zero, Nat.mul_one] at whole
  exact ⟨whole, (add_zero exponent).symm⟩

/-- A stored number has one significand and one exponent, zero included. -/
private theorem eq_of_magnitude (stored : Stored format (.finite negative left exponent))
    (storedOther : Stored format (.finite other right higher))
    (same : (left : ℚ) * 2 ^ exponent = right * 2 ^ higher) :
    left = right ∧ exponent = higher := by
  rcases Int.le_total exponent higher with ordered | ordered
  · exact eq_of_magnitude_of_le stored storedOther ordered same
  · obtain ⟨significands, exponents⟩ :=
      eq_of_magnitude_of_le storedOther stored ordered same.symm
    exact ⟨significands.symm, exponents.symm⟩

/-- Numbers of two signs are one number only if that is zero. -/
private theorem signed_eq_iff {first second : ℚ} (nonneg : 0 ≤ first) (nonnegOther : 0 ≤ second) :
    (if negative then -first else first) = (if other then -second else second) ↔
      first = second ∧ (first = 0 ∨ negative = other) := by
  have opposite : first = -second ↔ first = second ∧ first = 0 := by
    constructor
    · intro same
      constructor <;> linarith
    · rintro ⟨same, none⟩
      linarith
  cases negative <;> cases other <;> simp [opposite, neg_eq_iff_eq_neg]

theorem finite_equal_iff (stored : Stored format (.finite negative left exponent))
    (storedOther : Stored format (.finite other right higher)) :
    equal (.finite negative left exponent) (.finite other right higher) = true ↔
      denoted? (.finite negative left exponent) = denoted? (.finite other right higher) := by
  have zero (significand : Nat) (exponent : Int) :
      (significand : ℚ) * 2 ^ exponent = 0 ↔ significand = 0 := by
    rw [mul_eq_zero_iff_right (zpow_ne_zero _ two_ne_zero), Nat.cast_eq_zero]
  simp only [equal, denoted?, Option.some.injEq, WithBot.coe_inj, WithTop.coe_inj, Bool.or_eq_true,
    Bool.and_eq_true, beq_iff_eq]
  rw [signed_eq_iff (by positivity) (by positivity), zero]
  constructor
  · rintro (⟨rfl, rfl⟩ | ⟨⟨rfl, rfl⟩, rfl⟩)
    · simp
    · exact ⟨rfl, .inr rfl⟩
  · rintro ⟨same, signs⟩
    obtain ⟨rfl, rfl⟩ := eq_of_magnitude stored storedOther same
    exact signs.imp (fun none => ⟨none, none⟩) fun sign => ⟨⟨sign, rfl⟩, rfl⟩

end Finite

/-- Equal are values that denote one number. -/
theorem equal_iff {format : BinaryFormat} {left right : BinaryValue}
    (stored : left.Stored format) (storedOther : right.Stored format) :
    left.equal right = true ↔
      ∃ number, left.denoted? = some number ∧ right.denoted? = some number := by
  cases left with
  | notANumber => simp [equal, denoted?]
  | infinite negative =>
      cases right with
      | notANumber => simp [equal, denoted?]
      | infinite other => cases negative <;> cases other <;> simp [equal, denoted?]
      | finite other significand exponent => cases negative <;> simp [equal, denoted?]
  | finite negative significand exponent =>
      cases right with
      | notANumber => simp [equal, denoted?]
      | infinite other => cases other <;> simp [equal, denoted?]
      | finite other otherSignificand otherExponent =>
          rw [finite_equal_iff stored storedOther]
          simp [denoted?, eq_comm]

end BinaryValue

/-- A pattern whose exponent is all ones and whose fraction is not all zeros. -/
def BinaryFormat.IsNaN (format : BinaryFormat) (pattern : Nat) : Prop :=
  format.exponentField pattern = 2 ^ format.exponentBits - 1 ∧ format.fraction pattern ≠ 0

private theorem BinaryFormat.denoted_decode_eq_none_iff (format : BinaryFormat) (pattern : Nat) :
    (format.decode pattern).denoted? = none ↔ format.IsNaN pattern := by
  simp only [decode, IsNaN]
  split
  · next ones => split <;> simp_all [BinaryValue.denoted?]
  · next mixed => split <;> simp [BinaryValue.denoted?, mixed]

namespace Number

/-- What a number stands for: an integer, or what the standard reads from its pattern. -/
def denoted? (number : Number) : Option (WithBot (WithTop ℚ)) :=
  match number.kind.reading with
  | .floating format => (format.decode number.pattern).denoted?
  | .unsigned => some ((number.pattern : ℚ) : WithTop ℚ)
  | .signed => some ((number.bits.toInt : ℚ) : WithTop ℚ)

def isFloating (number : Number) : Bool :=
  match number.kind.reading with
  | .floating _ => true
  | _ => false

def IsNaN (number : Number) : Prop :=
  ∃ format, number.kind.reading = .floating format ∧ format.IsNaN number.pattern

theorem denoted_eq_none_iff (number : Number) : number.denoted? = none ↔ number.IsNaN := by
  rw [denoted?, IsNaN]
  cases number.kind.reading with
  | floating format => simp [BinaryFormat.denoted_decode_eq_none_iff]
  | unsigned => simp
  | signed => simp

/-- Equal are numbers of one kind that stand for one value. -/
theorem equal_iff (left right : Number) :
    left.equal right = true ↔ left.kind = right.kind ∧
      ∃ value, left.denoted? = some value ∧ right.denoted? = some value := by
  obtain ⟨kind, bits⟩ := left
  obtain ⟨other, otherBits⟩ := right
  simp only [equal, denoted?, Bool.and_eq_true, beq_iff_eq]
  refine and_congr_right fun same => ?_
  subst same
  cases kind.reading with
  | floating format =>
      exact BinaryValue.equal_iff (format.stored_decode _) (format.stored_decode _)
  | unsigned =>
      simpa using eq_comm
  | signed =>
      simpa [pattern, BitVec.toNat_inj, BitVec.toInt_inj] using eq_comm

/-- Without floating point there is one pattern to each value. -/
theorem equal_iff_eq {left : Number} (whole : left.isFloating = false) (right : Number) :
    left.equal right = true ↔ left = right := by
  obtain ⟨kind, bits⟩ := left
  obtain ⟨other, otherBits⟩ := right
  simp only [equal, Bool.and_eq_true, beq_iff_eq, Number.mk.injEq]
  refine and_congr_right fun same => ?_
  subst same
  simp only [isFloating] at whole
  cases reading : kind.reading with
  | floating format => simp [reading] at whole
  | unsigned => simp [pattern, BitVec.toNat_inj]
  | signed => simp [pattern, BitVec.toNat_inj]

theorem equal_self_iff (number : Number) : number.equal number = true ↔ ¬ number.IsNaN := by
  rw [equal_iff, ← denoted_eq_none_iff]
  cases number.denoted? <;> simp

end Number

end Telemetry
