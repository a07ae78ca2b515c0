/-
The shortest decimal number that stands for a binary floating point number: of
all decimals that round to it, those with the fewest digits, and of those the
nearest to it, the larger one if two are equally near.

The search is exact. The number and the bounds of what rounds to it are
fractions of natural numbers; on the grid of multiples of a power of ten only
the two neighbours of the number can be the answer, so the grids are tried from
the coarsest down until one of the two lies within the bounds.
-/

import Telemetry.Binary

namespace Telemetry

/-- The number `coefficient * 10 ^ exponent`. -/
structure Decimal where
  coefficient : Nat
  exponent : Int
  deriving DecidableEq, Repr

namespace Decimal

def digitCount (value : Nat) : Nat := (Nat.toDigits 10 value).length

def strip : Nat → Decimal → Decimal
  | 0, decimal => decimal
  | fuel + 1, decimal =>
      if decimal.coefficient ≠ 0 ∧ decimal.coefficient % 10 = 0 then
        strip fuel ⟨decimal.coefficient / 10, decimal.exponent + 1⟩
      else decimal

/-- A positive number with the bounds of the decimals that round to it, all three
as numerators over one denominator. -/
structure Target where
  low : Nat
  value : Nat
  high : Nat
  denominator : Nat
  /-- Whether a decimal on a bound rounds to the number. -/
  closed : Bool
  deriving Repr

namespace Target

/-- The neighbourhood of `significand * 2 ^ exponent`. The gap below a power of
two is half the gap above it. -/
def ofBinary (format : BinaryFormat) (significand : Nat) (exponent : Int) : Target :=
  let numerator := 2 ^ (exponent - 2).toNat
  let below := if significand = 2 ^ format.fractionBits then 1 else 2
  { low := (4 * significand - below) * numerator
    value := 4 * significand * numerator
    high := (4 * significand + 2) * numerator
    denominator := 2 ^ (2 - exponent).toNat
    closed := significand % 2 = 0 }

def leading (target : Target) : Int :=
  if target.denominator ≤ target.value then
    (digitCount (target.value / target.denominator) : Int) - 1
  else
    -(digitCount ((target.denominator - 1) / target.value) : Int)

def scaled (target : Target) (exponent : Int) : Target :=
  let up := 10 ^ (-exponent).toNat
  { target with
    low := target.low * up
    value := target.value * up
    high := target.high * up
    denominator := target.denominator * 10 ^ exponent.toNat }

def accepts (target : Target) (units : Nat) : Bool :=
  let point := units * target.denominator
  if target.closed then target.low ≤ point && point ≤ target.high
  else target.low < point && point < target.high

/-- The best count of units, if one of the two neighbours will do. -/
def neighbour? (target : Target) : Option Nat :=
  let below := target.value / target.denominator
  let remainder := target.value % target.denominator
  match target.accepts below, target.accepts (below + 1) with
  | true, true => some (if 2 * remainder < target.denominator then below else below + 1)
  | true, false => some below
  | false, true => some (below + 1)
  | false, false => none

/-- Tries `grids` grids, the first in units of `10 ^ exponent`, each ten times finer
than the one before. -/
def search (target : Target) : Nat → Int → Decimal
  | 0, exponent =>
      let last := target.scaled exponent
      ⟨last.value / last.denominator, exponent⟩
  | grids + 1, exponent =>
      match (target.scaled exponent).neighbour? with
      | some units => ⟨units, exponent⟩
      | none => search target grids (exponent - 1)

end Target

/-- Seventeen significant digits tell any two double precision numbers apart. -/
def enoughDigits : Nat := 17

/-- The shortest decimal for `significand * 2 ^ exponent`. -/
def shortest (format : BinaryFormat) (significand : Nat) (exponent : Int) : Decimal :=
  if significand = 0 then ⟨0, 0⟩
  else
    let target := Target.ofBinary format significand exponent
    strip enoughDigits (target.search enoughDigits target.leading)

end Decimal

end Telemetry
