/-
Binary floating point as it lies in memory: a sign, a biased exponent and a
fraction, packed into one natural number below two to the width. A pattern is
read into the value it denotes, and a value that fits is written back.

Values are kept exact, as an integer times a power of two. There is no
arithmetic here and no rounding; comparing follows the standard, so a pattern
that is not a number equals nothing and the two zeros are equal.
-/

namespace Telemetry

-- A power of natural numbers means the core one in every module.
attribute [instance (high)] instPowNat

structure BinaryFormat where
  exponentBits : Nat
  fractionBits : Nat
  deriving DecidableEq, Repr

/-- The number a pattern denotes: `significand * 2 ^ exponent` with a sign, or none. -/
inductive BinaryValue where
  | notANumber
  | infinite (negative : Bool)
  | finite (negative : Bool) (significand : Nat) (exponent : Int)
  deriving DecidableEq, Repr

namespace BinaryFormat

def single : BinaryFormat := ⟨8, 23⟩

def double : BinaryFormat := ⟨11, 52⟩

def bias (format : BinaryFormat) : Nat := 2 ^ (format.exponentBits - 1) - 1

def fraction (format : BinaryFormat) (pattern : Nat) : Nat :=
  pattern % 2 ^ format.fractionBits

def exponentField (format : BinaryFormat) (pattern : Nat) : Nat :=
  pattern / 2 ^ format.fractionBits % 2 ^ format.exponentBits

def isNegative (format : BinaryFormat) (pattern : Nat) : Bool :=
  pattern / 2 ^ (format.fractionBits + format.exponentBits) % 2 == 1

/-- The exponent of the least significand bit of a number stored with this field. -/
def scale (format : BinaryFormat) (field : Nat) : Int :=
  (field : Int) - format.bias - format.fractionBits

def decode (format : BinaryFormat) (pattern : Nat) : BinaryValue :=
  let fraction := format.fraction pattern
  let field := format.exponentField pattern
  let negative := format.isNegative pattern
  if field = 2 ^ format.exponentBits - 1 then
    if fraction = 0 then .infinite negative else .notANumber
  else if field = 0 then
    .finite negative fraction (format.scale 1)
  else
    .finite negative (2 ^ format.fractionBits + fraction) (format.scale field)

def pack (format : BinaryFormat) (negative : Bool) (field fraction : Nat) : Nat :=
  ((if negative then 2 ^ format.exponentBits else 0) + field) * 2 ^ format.fractionBits + fraction

/-- The pattern of a value that the format can hold with its full precision. Every
value that is not a number gets the same quiet pattern. -/
def encode (format : BinaryFormat) : BinaryValue → Nat
  | .notANumber =>
      format.pack false (2 ^ format.exponentBits - 1) (2 ^ (format.fractionBits - 1))
  | .infinite negative => format.pack negative (2 ^ format.exponentBits - 1) 0
  | .finite negative significand exponent =>
      if significand = 0 then format.pack negative 0 0
      else
        let shift := format.fractionBits - significand.log2
        let field := exponent - shift + format.bias + format.fractionBits
        format.pack negative field.toNat (significand * 2 ^ shift - 2 ^ format.fractionBits)

end BinaryFormat

namespace BinaryValue

/-- Comparison for equality as the standard lays it down, of two values read
from patterns of one format. -/
def equal : BinaryValue → BinaryValue → Bool
  | .infinite left, .infinite right => left == right
  | .finite leftSign left leftExponent, .finite rightSign right rightExponent =>
      (left == 0 && right == 0) ||
        (leftSign == rightSign && left == right && leftExponent == rightExponent)
  | _, _ => false

end BinaryValue

/-- A single precision pattern as the double precision pattern of the same value. -/
def widen (pattern : Nat) : Nat :=
  BinaryFormat.double.encode (BinaryFormat.single.decode pattern)

end Telemetry
